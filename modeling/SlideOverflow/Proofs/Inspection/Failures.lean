import SlideOverflow.Attribution.Source
import SlideOverflow.Inspection.Census
import SlideOverflow.Inspection.Overflow

/-! How the reading of data fails. What a page has answered can be unusable, or hold no slide; no
other failure comes of looking at it. So a failed call is never mistaken for bad data, nor bad data
for a slide that could not be reached. -/
namespace SlideOverflow

open Number

inductive Failure.OfData : Failure → Prop where
  | defect (d : Defect) : OfData (.defect d)
  | noActiveSlide (address : String) : OfData (.noActiveSlide address)

/-- An outcome that only data can make fail. -/
def Outcome.OnlyData {α : Type} (o : Outcome α) : Prop := ∀ e, o = .error e → e.OfData

namespace Outcome

variable {α β : Type}

@[simp] private theorem onlyData_ok (a : α) : OnlyData (.ok a) := fun _ h => nomatch h

@[simp] private theorem onlyData_pure (a : α) : OnlyData (pure a) := fun _ h => nomatch h

@[simp] private theorem onlyData_defect (d : Defect) :
    OnlyData (.error (.defect d) : Outcome α) := by
  intro e h
  cases h
  exact .defect d

@[simp] private theorem onlyData_reject
    (d : Defect) : OnlyData (reject d : Outcome α) := onlyData_defect d

@[simp] private theorem onlyData_ofOption (d : Defect) (o : Option α) :
    OnlyData (ofOption d o) := by
  cases o with
  | none => exact onlyData_defect d
  | some a => exact onlyData_ok a

/-- The second step counts only where the first one has succeeded. -/
@[simp] private theorem onlyData_bind {o : Outcome α} {f : α → Outcome β} :
    OnlyData (o >>= f) ↔ o.OnlyData ∧ ∀ a, o = .ok a → (f a).OnlyData := by
  cases o with
  | error e =>
    have hsame : OnlyData (.error e >>= f) ↔ OnlyData (.error e : Outcome α) :=
      ⟨fun h e' he => h e' (by cases he; rfl), fun h e' he => h e' (by cases he; rfl)⟩
    rw [hsame]
    refine (and_iff_left fun a ha => ?_).symm
    cases ha
  | ok a =>
    have hsame : OnlyData (.ok a >>= f) ↔ OnlyData (f a) := Iff.rfl
    rw [hsame]
    refine ⟨fun h => ⟨onlyData_ok a, fun b hb => ?_⟩, fun h => h.2 a rfl⟩
    cases hb
    exact h

@[simp] private theorem onlyData_map {o : Outcome α} {f : α → β} :
    OnlyData (f <$> o) ↔ o.OnlyData := by
  rw [map_eq_pure_bind, onlyData_bind]
  exact and_iff_left fun a _ => onlyData_pure (f a)

@[simp] private theorem onlyData_ite {p : Prop} [Decidable p] {o o' : Outcome α} :
    OnlyData (if p then o else o') ↔ (p → o.OnlyData) ∧ (¬p → o'.OnlyData) := by
  by_cases h : p <;> simp [h]

private theorem onlyData_mapM {f : α → Outcome β} (h : ∀ a, (f a).OnlyData) (l : List α) :
    OnlyData (l.mapM f) := by
  intro e he
  obtain ⟨_, a, _, _, ha, _⟩ := exists_first_error he
  exact h a e ha

private theorem onlyData_anyM {test : α → Outcome Bool} (h : ∀ a, (test a).OnlyData) (l : List α) :
    OnlyData (l.anyM test) := by
  induction l with
  | nil => exact onlyData_ok false
  | cons a l ih =>
    rw [List.anyM, onlyData_bind]
    refine ⟨h a, fun b _ => ?_⟩
    cases b with
    | true => exact onlyData_ok true
    | false => exact ih

private theorem onlyData_filterM {test : α → Outcome Bool} (h : ∀ a, (test a).OnlyData)
    (l : List α) :
    OnlyData (l.filterM test) := by
  have haux : ∀ kept : List α, OnlyData (l.filterAuxM test kept) := by
    induction l with
    | nil => exact fun kept => onlyData_ok kept
    | cons a l ih =>
      intro kept
      rw [List.filterAuxM, onlyData_bind]
      exact ⟨h a, fun b _ => ih _⟩
  rw [List.filterM, onlyData_bind]
  exact ⟨haux [], fun kept _ => onlyData_pure _⟩

end Outcome

/-! ### Parts of an answer -/

namespace Number.Quantity

@[simp] private theorem onlyData_toFloat (q : Quantity) : q.toFloat.OnlyData := by
  rw [toFloat]
  exact Outcome.onlyData_ofOption _ _

@[simp] private theorem onlyData_sub (a b : Quantity) : (a.sub b).OnlyData := by
  cases a <;> cases b <;> simp [sub, combine]

@[simp] private theorem onlyData_truncate (x : Float) : (truncate x).OnlyData := by
  rw [truncate]
  split <;> simp

end Number.Quantity

namespace Json

@[simp] private theorem onlyData_fieldOr (default j : Json) (name : String) :
    (fieldOr default j name).OnlyData := by
  cases j <;> simp [fieldOr]

@[simp] private theorem onlyData_field (j : Json) (name : String) : (j.field name).OnlyData := by
  rw [field]
  exact onlyData_fieldOr .null j name

@[simp] private theorem onlyData_require (j : Json) (name : String) :
    (j.require name).OnlyData := by
  cases j <;> simp [require]

@[simp] private theorem onlyData_items (j : Json) : j.items.OnlyData := by
  cases j <;> simp [items]

@[simp] private theorem onlyData_size (j : Json) : j.size.OnlyData := by
  cases j <;> simp [size]

@[simp] private theorem onlyData_toText (j : Json) : j.toText?.OnlyData := by
  cases j <;> simp [toText?]

@[simp] private theorem onlyData_toQuantity (j : Json) : j.toQuantity.OnlyData := by
  rw [toQuantity]
  exact Outcome.onlyData_ofOption _ _

private theorem onlyData_toWhole (j : Json) : j.toWhole.OnlyData := by
  unfold toWhole
  split <;> simp

@[simp] theorem onlyData_wholeOr (n : Int) (j : Json) : (j.wholeOr n).OnlyData := by
  simp [wholeOr, onlyData_toWhole]

@[simp] private theorem onlyData_minus (a b : Json) : (a.minus b).OnlyData := by
  simp [minus]

@[simp] private theorem onlyData_excess (a b : Json) : (a.excess b).OnlyData := by
  simp [excess]

@[simp] private theorem onlyData_above (a b : Json) : (a.above b).OnlyData := by
  intro e he
  rw [above_eq_error he]
  exact .defect .wrongKind

end Json

/-! ### The census -/

namespace Inspection

open Outcome

private theorem onlyData_indexOfFirst {test : Json → Outcome Bool} (h : ∀ j, (test j).OnlyData)
    (slides : List Json) : (indexOfFirst test slides).OnlyData := by
  induction slides with
  | nil => exact onlyData_ok _
  | cons j js ih => simp [indexOfFirst, h, ih]

private theorem onlyData_addressDigits (census : Json) : (addressDigits? census).OnlyData := by
  rw [addressDigits?, onlyData_bind]
  refine ⟨by simp [addressPart], fun path _ => ?_⟩
  split <;> simp [addressPart]

private theorem onlyData_addressedSlide (census : Json) : (addressedSlide census).OnlyData := by
  rw [addressedSlide, onlyData_bind]
  refine ⟨onlyData_addressDigits census, fun digits _ => ?_⟩
  cases digits <;> simp [censusSlides, onlyData_indexOfFirst]

private theorem onlyData_firstSlide (census : Json) : (firstSlide census).OnlyData := by
  rw [firstSlide, onlyData_bind]
  refine ⟨Json.onlyData_fieldOr _ _ _, fun slides _ => ?_⟩
  split
  · exact onlyData_pure _
  · split <;> simp

private theorem Resolver.onlyData_resolve (r : Resolver) (census : Json) :
    (r.resolve census).OnlyData := by
  cases r with
  | marker => simp [resolve, markedSlide, censusSlides, onlyData_indexOfFirst]
  | address => exact onlyData_addressedSlide census
  | size => simp [resolve, sizedSlide, hasSize, censusSlides, onlyData_indexOfFirst]
  | order => exact onlyData_firstSlide census

private theorem onlyData_resolveBy (census : Json) (rs : List Resolver) :
    (resolveBy census rs).OnlyData := by
  induction rs with
  | nil =>
    rw [resolveBy, onlyData_bind]
    -- The one place where a failure is not a defect of the answer.
    refine ⟨by simp [addressText], fun address _ e he => ?_⟩
    cases he
    exact .noActiveSlide address
  | cons r rs ih =>
    rw [resolveBy, onlyData_bind]
    refine ⟨r.onlyData_resolve census, fun index _ => ?_⟩
    split
    · exact ih
    · exact onlyData_pure _

theorem onlyData_activeSlide (census : Json) : (activeSlide census).OnlyData := by
  simp [activeSlide, onlyData_resolveBy]

/-! ### Elements and their overflow -/

private theorem onlyData_classesOf (className : Json) : (classesOf className).OnlyData := by
  cases className <;> simp [classesOf]

private theorem onlyData_selectorOf (tag id className : Json) :
    (selectorOf tag id className).OnlyData := by
  simp only [selectorOf, onlyData_ite, onlyData_bind]
  refine ⟨fun _ => onlyData_pure _, fun _ => ⟨onlyData_classesOf className, fun classes _ => ?_⟩⟩
  split <;> simp

private theorem onlyData_describe (record : Json) : (describe record).OnlyData := by
  simp [describe, onlyData_selectorOf]

private theorem onlyData_isTransparent (opacity : Json) : (isTransparent opacity).OnlyData := by
  cases opacity <;> simp [isTransparent]

private theorem onlyData_anyOf {test : Json → Outcome Bool} (h : ∀ j, (test j).OnlyData)
    (l : List Json) :
    (anyOf test l).OnlyData := by
  induction l with
  | nil => exact onlyData_ok false
  | cons j js ih => simp [anyOf, h, ih]

private theorem onlyData_hides (ancestor : Json) : (hides ancestor).OnlyData := by
  simp [hides, onlyData_isTransparent]

private theorem onlyData_isShown (record : Json) : (isShown record).OnlyData := by
  simp [isShown, onlyData_isTransparent, onlyData_anyOf, onlyData_hides]

private theorem onlyData_clips (record : Json) : (clips record).OnlyData := by
  simp only [clips, onlyData_bind, onlyData_ite]
  refine ⟨onlyData_anyM (fun name => by simp) _, fun clipped _ => ⟨fun _ => onlyData_pure true, ?_⟩⟩
  simp

private theorem onlyData_clipping (frame record : Json) : (clipping frame record).OnlyData := by
  simp [clipping, measure, onlyData_clips]

private theorem onlyData_textIssue (threshold frame record : Json) :
    (textIssue? threshold frame record).OnlyData := by
  simp [textIssue?, onlyData_clipping, onlyData_describe]

private theorem onlyData_elementIssue (threshold frame record : Json) :
    (elementIssue? threshold frame record).OnlyData := by
  simp [elementIssue?, onlyData_isShown, hasExtent, overflowPast, onlyData_describe, edges]

private theorem onlyData_scrollIssue (record : Json) : (scrollIssue? record).OnlyData := by
  simp [scrollIssue?, measure, scrolls, onlyData_describe]

private theorem onlyData_issuesBy {judge : Json → Outcome (Option Issue)}
    (h : ∀ j, (judge j).OnlyData) (snapshot : Json) : (issuesBy judge snapshot).OnlyData := by
  simp [issuesBy, measuredRecords, onlyData_filterM, onlyData_mapM, h]

private theorem Detection.onlyData_issuesOf (d : Detection) (snapshot : Json) (kind : IssueKind) :
    (d.issuesOf snapshot kind).OnlyData := by
  cases kind with
  | textOverflow => simp [issuesOf, textIssues, onlyData_issuesBy, onlyData_textIssue]
  | elementOverflow =>
    simp [issuesOf, elementIssues, onlyData_issuesBy, onlyData_elementIssue]
  | scrollbar => exact onlyData_issuesBy onlyData_scrollIssue snapshot

theorem Detection.onlyData_issues (d : Detection) (snapshot : Json) :
    (d.issues snapshot).OnlyData := by
  simp [issues, onlyData_mapM, d.onlyData_issuesOf]

end Inspection

/-! ### Attribution -/

namespace Deck.Slide

private theorem onlyData_itemEnd (s : Slide) (line : Int) : (s.itemEnd line).OnlyData := by
  simp [itemEnd]

private theorem onlyData_items (s : Slide) : s.items.OnlyData := by
  simp [items, linesOf, Outcome.onlyData_mapM]

private theorem onlyData_findItem (s : Slide) (text : String) : (s.findItem text).OnlyData := by
  simp only [findItem, Outcome.onlyData_ite, Outcome.onlyData_bind]
  refine ⟨fun _ => Outcome.onlyData_pure none, fun _ => ⟨s.onlyData_items, fun items _ => ?_⟩⟩
  split <;> simp [onlyData_itemEnd]

end Deck.Slide

namespace Attribution

open Outcome

private theorem onlyData_textOf {d : Defect} (j : Json) : (textOf? d j).OnlyData := by
  cases j <;> simp [textOf?]

private theorem Strategy.onlyData_find (strategy : Strategy) (slide : Deck.Slide)
    (tagClass : TagClass) (e : Element) : (strategy.find slide tagClass e).OnlyData := by
  cases strategy with
  | elementSpecific =>
    simp only [find]
    split
    · rw [onlyData_bind]
      refine ⟨onlyData_textOf _, fun text _ => ?_⟩
      cases text with
      | none => exact onlyData_pure none
      | some text => exact slide.onlyData_findItem text
    · simp [onlyData_textOf]
    · exact onlyData_pure none
  | inlineText => simp [find, onlyData_textOf]
  | blockConstruct =>
    simp only [find]
    split <;> simp [onlyData_textOf]
  | imageSource =>
    simp only [find, onlyData_ite, onlyData_bind]
    refine ⟨fun _ => ⟨onlyData_textOf _, fun address _ => ?_⟩, fun _ => onlyData_pure none⟩
    split <;> exact onlyData_pure _
  | textSubstring => simp [find, onlyData_textOf]
  | wholeSlide => exact onlyData_pure _

private theorem Strategy.onlyData_firstFinding (slide : Deck.Slide) (tagClass : TagClass)
    (e : Element) (cascade : List Strategy) : (firstFinding slide tagClass e cascade).OnlyData := by
  induction cascade with
  | nil => exact onlyData_ok none
  | cons strategy cascade ih =>
    rw [firstFinding, onlyData_bind]
    refine ⟨strategy.onlyData_find slide tagClass e, fun found _ => ?_⟩
    cases found with
    | none => exact ih
    | some range => exact onlyData_pure _

namespace Source

private theorem onlyData_locate (s : Source) (slide : Deck.Slide) (e : Element) :
    (s.locate slide e).OnlyData := by
  have hclass : (TagClass.ofJson e.tag).OnlyData := by
    cases e.tag <;> simp [TagClass.ofJson]
  rw [locate, onlyData_bind]
  refine ⟨hclass, fun tagClass _ => ?_⟩
  rw [onlyData_bind]
  refine ⟨Strategy.onlyData_firstFinding slide tagClass e s.cascade, fun found _ => ?_⟩
  cases found <;> exact onlyData_pure _

private theorem onlyData_enrich (s : Source) (number : Int) (issue : Issue) :
    (s.enrich number issue).OnlyData := by
  rw [enrich]
  cases s.slide? number with
  | none => exact onlyData_ok _
  | some slide => simp [onlyData_locate]

theorem onlyData_enrichAll (s : Source) (number : Int) (issues : List Issue) :
    (s.enrichAll number issues).1.OnlyData := by
  -- The first issue that fails decides.
  induction issues with
  | nil => exact onlyData_ok []
  | cons issue issues ih =>
    intro e he
    rw [enrichAll] at he
    cases henrich : s.enrich number issue with
    | error e' =>
      rw [henrich] at he
      cases he
      exact s.onlyData_enrich number issue e henrich
    | ok pair =>
      rw [henrich] at he
      refine ih e ?_
      cases hrest : (s.enrichAll number issues).1 with
      | error e' =>
        simp only [hrest] at he
        cases he
        rfl
      | ok is =>
        simp only [hrest] at he
        cases he

end Source

end Attribution

end SlideOverflow
