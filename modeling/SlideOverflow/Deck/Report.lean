import SlideOverflow.Deck.Presentation
import SlideOverflow.Geometry.Layout

/-! Reports of a presentation: records of named values, in the order in which they are handed
on. -/
namespace SlideOverflow.Deck

open Json (ofNat)

def NodeForm.name : NodeForm → String
  | .heading _ => "heading"
  | .list .. => "list"
  | .codeBlock .. => "code-block"
  | .image .. => "image"
  | .table .. => "table"
  | .blockquote _ => "blockquote"
  | .paragraph => "paragraph"
  | .component .. => "component"
  | .slotSeparator _ => "slot-separator"

def NodeForm.fields : NodeForm → List (String × Json)
  | .heading level => [("level", ofNat level)]
  | .list ordered count depth =>
    [("ordered", .bool ordered), ("itemCount", ofNat count), ("maxDepth", ofNat depth)]
  | .codeBlock language count closed =>
    [("language", .text language), ("lineCount", ofNat count), ("closed", .bool closed)]
  | .image label source => [("alt", .text label), ("src", .text source)]
  | .table columns rows => [("columns", ofNat columns), ("rows", ofNat rows)]
  | .blockquote depth => [("depth", ofNat depth)]
  | .paragraph => []
  | .component name closing => [("component", .text name), ("closing", .bool closing)]
  | .slotSeparator name => [("slotName", .text name)]

def ContentNode.ownFields (n : ContentNode) : List (String × Json) :=
  [("type", .text n.form.name), ("lineStart", ofNat n.first), ("lineEnd", ofNat n.last),
   ("slideIndex", ofNat n.slide), ("content", .text n.content),
   ("metadata", .record n.form.fields)] ++
  n.level?.toList.map (fun level => ("level", ofNat level)) ++
  n.text.toList.flatMap fun t =>
    [("text", .text t), ("charCount", (n.charCount.map ofNat).getD .null)]

mutual

def ContentNode.report : ContentNode → Json
  | ⟨form, first, last, slide, content, text, charCount, children⟩ =>
    .record (ContentNode.ownFields ⟨form, first, last, slide, content, text, charCount, []⟩ ++
      if children.isEmpty then [] else [("children", .list (nodeReports children))])

def nodeReports : List ContentNode → List Json
  | [] => []
  | n :: ns => n.report :: nodeReports ns

end

def Metrics.report (m : Metrics) : Json :=
  .record [("totalCharacters", ofNat m.characters), ("wordCount", ofNat m.words),
    ("elementCounts", .record [("headings", ofNat m.headings), ("lists", ofNat m.lists),
      ("codeBlocks", ofNat m.codeBlocks), ("images", ofNat m.images),
      ("tables", ofNat m.tables)])]

def Slide.summary (s : Slide) : Json :=
  .record [("slide_index", ofNat s.index), ("layout", .ofCodes s.layout),
    ("node_count", ofNat s.nodes.length), ("character_count", ofNat s.metrics.characters)]

end SlideOverflow.Deck
