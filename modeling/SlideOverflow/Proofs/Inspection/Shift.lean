import SlideOverflow.Proofs.Inspection.Threshold

/-! Snapshots of a slide that sits elsewhere on the page. The boxes of a snapshot are shifted
together; what the detectors find depends on how they lie to each other only. -/
namespace SlideOverflow

open Number Outcome

namespace Json

variable {fields : List (String × Json)} {f : String → Json → Json} {name : String} {j : Json}

def adjust (f : String → Json → Json) : Json → Json
  | .record fields => .record (fields.map fun field => (field.1, f field.1 field.2))
  | j => j

/-- A whole number, and so much more. Other values stay as they are. -/
def plus (d : Int) : Json → Json
  | .number (.int n) => .number (.int (n + d))
  | j => j

private theorem plus_zero (j : Json) : plus 0 j = j := by
  cases j with
  | number q => cases q <;> simp [plus]
  | _ => rfl

private theorem lookup_adjust :
    (fields.map fun field => (field.1, f field.1 field.2)).lookup name =
      (fields.lookup name).map (f name) := by
  induction fields with
  | nil => rfl
  | cons field fields ih =>
    rw [List.map_cons, List.lookup_cons, List.lookup_cons]
    by_cases h : name = field.1
    · subst h
      simp
    · rw [beq_false_of_ne h]
      exact ih

theorem fieldOr_adjust {default : Json} (h : f name default = default) :
    fieldOr default (adjust f j) name = (fieldOr default j name).map (f name) := by
  cases j with
  | record fields =>
    rw [adjust, fieldOr, fieldOr, lookup_adjust]
    cases fields.lookup name with
    | none => exact congrArg Except.ok h.symm
    | some _ => rfl
  | _ => rfl

private theorem require_adjust : require (adjust f j) name = (require j name).map (f name) := by
  cases j with
  | record fields =>
    rw [adjust, require, require, lookup_adjust]
    cases fields.lookup name <;> rfl
  | _ => rfl

theorem isTruthy_adjust : (adjust f j).isTruthy = j.isTruthy := by
  cases j with
  | record fields => cases fields <;> rfl
  | _ => rfl

end Json

namespace Inspection

open Json

/-- How far a slide is moved on its page, to the right and down. -/
structure Shift where
  x : Int
  y : Int

namespace Shift

/-- What is added to a side of a box; nothing to its width and height. -/
def amount (d : Shift) : String → Int
  | "left" | "right" => d.x
  | "top" | "bottom" => d.y
  | _ => 0

def box (d : Shift) : Json → Json := adjust fun name => plus (d.amount name)

def element (d : Shift) : Json → Json :=
  adjust fun name j => if name = "rect" ∨ name = "textRect" then d.box j else j

def elements (d : Shift) : Json → Json
  | .list items => .list (items.map d.element)
  | j => j

def snapshot (d : Shift) : Json → Json :=
  adjust fun name j => if name = "frame" then d.box j else if name = "elements" then d.elements j
    else j

def edges (d : Shift) (e : Edges) : Edges :=
  ⟨plus d.x e.left, plus d.y e.top, plus d.x e.right, plus d.y e.bottom⟩

def issue (d : Shift) (i : Issue) : Issue :=
  match i.measurement with
  | .element frame box overflow =>
    { i with measurement := .element (d.edges frame) (d.edges box) overflow }
  | _ => i

end Shift

/-! ### Whole coordinates -/

def WholeSides (j : Json) : Prop :=
  ∀ fields, j = .record fields → ∀ name ∈ ["left", "top", "right", "bottom"],
    MayHold fields name IsWhole

def WholeBoxes (record : Json) : Prop :=
  ∀ fields, record = .record fields →
    MayHold fields "rect" WholeSides ∧ MayHold fields "textRect" WholeSides

def WholeList (elements : Json) : Prop :=
  ∀ items, elements = .list items → ∀ r ∈ items, WholeBoxes r

def WholeCoordinates (snapshot : Json) : Prop :=
  ∀ fields, snapshot = .record fields →
    MayHold fields "frame" WholeSides ∧ MayHold fields "elements" WholeList

private theorem wholeSides_null : WholeSides .null := fun _ h => nomatch h

section Boxes

variable (d : Shift) {frame rect j k : Json} {name : String}

private theorem require_box :
    (d.box j).require name = (j.require name).map (plus (d.amount name)) :=
  require_adjust

private theorem require_size (name : String) (hname : d.amount name = 0) :
    (d.box j).require name = j.require name := by
  rw [require_box, hname]
  cases j.require name with
  | error e => rfl
  | ok n => exact congrArg Except.ok (plus_zero n)

private theorem WholeSides.require (h : WholeSides j)
    (hname : name ∈ ["left", "top", "right", "bottom"])
    {a : Json} (ha : j.require name = .ok a) : IsWhole a := by
  cases j with
  | record fields =>
    rw [Json.require] at ha
    cases hlookup : fields.lookup name with
    | none =>
      rw [hlookup] at ha
      cases ha
    | some b =>
      rw [hlookup] at ha
      cases ha
      exact h fields rfl name hname _ hlookup
  | _ => cases ha

/-- The excess of a side over the same side of another box stays the same. -/
private theorem sideExcess_box {α : Type} (hj : WholeSides j) (hk : WholeSides k)
    (name : String) (hname : name ∈ ["left", "top", "right", "bottom"])
    (g : Quantity → Outcome α) :
    ((d.box j).require name >>= fun a => (d.box k).require name >>= fun b => a.excess b >>= g) =
      (j.require name >>= fun a => k.require name >>= fun b => a.excess b >>= g) := by
  rw [require_box, require_box]
  cases ha : j.require name with
  | error e => rfl
  | ok a =>
    cases hb : k.require name with
    | error e => rfl
    | ok b =>
      cases hj.require hname ha with
      | int m =>
        cases hk.require hname hb with
        | int n =>
          change (Json.number (.int (m + d.amount name))).excess
            (.number (.int (n + d.amount name))) >>= g =
            (Json.number (.int m)).excess (.number (.int n)) >>= g
          rw [excess_int, excess_int, Int.add_sub_add_right]

private theorem overflowPast_box (hframe : WholeSides frame) (hrect : WholeSides rect) :
    overflowPast (d.box frame) (d.box rect) = overflowPast frame rect := by
  simp only [overflowPast, sideExcess_box d hframe hrect "left" (by decide),
    sideExcess_box d hframe hrect "top" (by decide),
    sideExcess_box d hrect hframe "right" (by decide),
    sideExcess_box d hrect hframe "bottom" (by decide)]

private theorem isTruthy_box : (d.box j).isTruthy = j.isTruthy := isTruthy_adjust

private theorem hasExtent_box : hasExtent (d.box j) = hasExtent j := by
  simp only [hasExtent, isTruthy_box, require_size d "width" rfl,
    require_size d "height" rfl]

private theorem edges_box : edges (d.box j) = (edges j).map d.edges := by
  simp only [edges, require_box]
  cases j.require "left" with
  | error e => rfl
  | ok left =>
    cases j.require "top" with
    | error e => rfl
    | ok top =>
      cases j.require "right" with
      | error e => rfl
      | ok right => cases j.require "bottom" <;> rfl

/-- The same sides are there. -/
private theorem mapM_require_box {α : Type} (names : List String) (x : Outcome α) :
    (names.mapM (d.box j).require >>= fun _ => x) = (names.mapM j.require >>= fun _ => x) := by
  induction names with
  | nil => rfl
  | cons name names ih =>
    rw [List.mapM_cons, List.mapM_cons, require_box]
    cases j.require name with
    | error e => rfl
    | ok side =>
      simp only [bind_map, ok_bind, bind_assoc, pure_bind]
      exact ih

end Boxes

section Elements

variable (d : Shift) {frame r : Json} {name : String}

private theorem fieldOr_element (default : Json) (hrect : name ≠ "rect")
    (htext : name ≠ "textRect") :
    fieldOr default (d.element r) name = fieldOr default r name := by
  have hsame : (fun j => if name = "rect" ∨ name = "textRect" then d.box j else j) = id :=
    funext fun j => if_neg (not_or.mpr ⟨hrect, htext⟩)
  rw [Shift.element, fieldOr_adjust (congrFun hsame default), hsame]
  cases fieldOr default r name <;> rfl

private theorem field_element (hrect : name ≠ "rect") (htext : name ≠ "textRect") :
    (d.element r).field name = r.field name := fieldOr_element d .null hrect htext

private theorem field_box_element (name : String) (hname : name = "rect" ∨ name = "textRect") :
    (d.element r).field name = (r.field name).map d.box := by
  have hbox : (fun j => if name = "rect" ∨ name = "textRect" then d.box j else j) = d.box :=
    funext fun j => if_pos hname
  rw [field, Shift.element, fieldOr_adjust (congrFun hbox .null), hbox]
  rfl

private theorem WholeBoxes.field (hr : WholeBoxes r) (hname : name = "rect" ∨ name = "textRect")
    {j : Json} (hj : r.field name = .ok j) : WholeSides j := by
  cases r with
  | record fields =>
    obtain ⟨hrect, htext⟩ := hr fields rfl
    rcases hname with rfl | rfl
    · exact hrect.of_fieldOr wholeSides_null hj
    · exact htext.of_fieldOr wholeSides_null hj
  | _ => cases hj

private theorem describe_element : describe (d.element r) = describe r := by
  simp (disch := decide) only [describe, fieldOr_element, field_element]

private theorem isShown_element : isShown (d.element r) = isShown r := by
  simp (disch := decide) only [isShown, fieldOr_element, field_element]

private theorem clips_element : clips (d.element r) = clips r := by
  simp (disch := decide) only [clips, List.anyM, field_element]

private theorem measure_element (hrect : name ≠ "rect") (htext : name ≠ "textRect") :
    measure (d.element r) name = measure r name := fieldOr_element d (.number 0) hrect htext

private theorem scrollIssue_element : scrollIssue? (d.element r) = scrollIssue? r := by
  simp (disch := decide) only [scrollIssue?, measure_element, field_element, describe_element]

private theorem clipping_element (hframe : WholeSides frame) (hr : WholeBoxes r) :
    clipping (d.box frame) (d.element r) = clipping frame r := by
  simp (disch := decide) only [clipping, measure_element, clips_element, field_element,
    field_box_element d "textRect" (.inr rfl), bind_map]
  cases hrect : r.field "textRect" with
  | error e => rfl
  | ok rect =>
    have hwhole := hr.field (.inr rfl) hrect
    simp only [ok_bind, isTruthy_box, require_size d "width" rfl,
      require_size d "height" rfl,
      sideExcess_box d hwhole hframe "right" (by decide),
      sideExcess_box d hwhole hframe "bottom" (by decide)]

private theorem textIssue_element (hframe : WholeSides frame) (hr : WholeBoxes r)
    (threshold : Json) :
    textIssue? threshold (d.box frame) (d.element r) = textIssue? threshold frame r := by
  rw [textIssue?, textIssue?, clipping_element d hframe hr, describe_element]

private theorem elementIssue_element (hframe : WholeSides frame) (hr : WholeBoxes r)
    (threshold : Json) :
    elementIssue? threshold (d.box frame) (d.element r) =
      (elementIssue? threshold frame r).map (Option.map d.issue) := by
  simp only [elementIssue?, isShown_element, describe_element,
    field_box_element d "rect" (.inl rfl), hasExtent_box, edges_box, bind_map, map_bind,
    apply_ite (Except.map (Option.map d.issue))]
  cases hrect : r.field "rect" with
  | error e => rfl
  | ok rect =>
    simp only [ok_bind, overflowPast_box d hframe (hr.field (.inl rfl) hrect)]
    rfl

end Elements

/-! ### Snapshots -/

section Snapshots

variable (d : Shift) {s : Json}

private theorem field_frame_snapshot : (d.snapshot s).field "frame" = (s.field "frame").map d.box :=
  fieldOr_adjust rfl

/-- What is no list has texts for members, and those are not changed. -/
private theorem items_elements (j : Json) :
    (d.elements j).items = j.items.map (List.map d.element) := by
  cases j with
  | text t =>
    change Except.ok _ = Except.ok (List.map d.element (List.map _ t.toList))
    rw [List.map_map]
    rfl
  | record fields =>
    change Except.ok _ = Except.ok (List.map d.element (List.map _ fields))
    rw [List.map_map]
    rfl
  | _ => rfl

private theorem measuredRecords_snapshot :
    measuredRecords (d.snapshot s) = (measuredRecords s).map (List.map d.element) := by
  have hexcluded (r : Json) : (d.element r).field "excluded" = r.field "excluded" :=
    field_element d (by decide) (by decide)
  have helements : fieldOr (.list []) (d.snapshot s) "elements" =
      (fieldOr (.list []) s "elements").map d.elements :=
    fieldOr_adjust rfl
  simp only [measuredRecords, helements, bind_map, items_elements, filterM_map_eq, hexcluded,
    map_bind]

private theorem WholeCoordinates.frame (hs : WholeCoordinates s) {frame : Json}
    (hframe : s.field "frame" = .ok frame) : WholeSides frame := by
  cases s with
  | record fields =>
    exact (hs fields rfl).1.of_fieldOr wholeSides_null hframe
  | _ => cases hframe

/-- What is no list has texts for members, and those have no boxes. -/
private theorem WholeList.items {j : Json} (hj : WholeList j) {items : List Json}
    (hitems : j.items = .ok items) : ∀ r ∈ items, WholeBoxes r := by
  intro r hr
  cases j with
  | list _ =>
    cases hitems
    exact hj _ rfl r hr
  | text t =>
    cases hitems
    obtain ⟨c, -, rfl⟩ := List.mem_map.mp hr
    exact fun _ h => nomatch h
  | record fields =>
    cases hitems
    obtain ⟨f, -, rfl⟩ := List.mem_map.mp hr
    exact fun _ h => nomatch h
  | _ => cases hitems

private theorem WholeCoordinates.measured (hs : WholeCoordinates s) {records : List Json}
    (hrecords : measuredRecords s = .ok records) : ∀ r ∈ records, WholeBoxes r := by
  cases s with
  | record fields =>
    have hnil : WholeList (.list []) := by
      rintro items ⟨⟩ r hr
      exact absurd hr List.not_mem_nil
    have helements := (hs fields rfl).2.of_fieldOr hnil rfl
    obtain ⟨items, hitems, hkept⟩ := Outcome.bind_eq_ok_iff.mp hrecords
    exact fun r hr => helements.items hitems r (mem_of_filterM_eq_ok hkept r hr)
  | _ => cases hrecords

/-- Judgements that see a shift of an element in their issue only see a shift of the snapshot in
their issues only. -/
private theorem issuesBy_snapshot (hs : WholeCoordinates s)
    {judge judge' : Json → Outcome (Option Issue)} {change : Issue → Issue}
    (hjudge : ∀ r, WholeBoxes r → judge' (d.element r) = (judge r).map (Option.map change)) :
    issuesBy judge' (d.snapshot s) = (issuesBy judge s).map (List.map change) := by
  rw [issuesBy, issuesBy, measuredRecords_snapshot]
  cases hrecords : measuredRecords s with
  | error e => rfl
  | ok records =>
    have hmapM : (records.map d.element).mapM judge' =
        (records.mapM judge).map (List.map (Option.map change)) :=
      mapM_map_eq fun r hr => hjudge r (hs.measured hrecords r hr)
    change ((records.map d.element).mapM judge' >>= fun found => _) = _
    rw [hmapM, bind_map, ok_bind, map_bind]
    congr 1
    funext found
    change Except.ok ((found.map (Option.map change)).filterMap id) =
      Except.ok ((found.filterMap id).map change)
    rw [List.filterMap_map, List.map_filterMap]
    rfl

/-- Where no issue sees the shift of its element, no issue does. -/
private theorem issuesBy_snapshot_eq (hs : WholeCoordinates s)
    {judge judge' : Json → Outcome (Option Issue)}
    (hjudge : ∀ r, WholeBoxes r → judge' (d.element r) = judge r) :
    issuesBy judge' (d.snapshot s) = issuesBy judge s := by
  have hsame : issuesBy judge' (d.snapshot s) = (issuesBy judge s).map (List.map id) := by
    apply issuesBy_snapshot d hs
    intro r hr
    rw [hjudge r hr]
    cases judge r <;> simp [Except.map]
  rw [hsame]
  cases issuesBy judge s <;> simp [Except.map]

private theorem textIssues_snapshot (hs : WholeCoordinates s) (threshold : Json) :
    textIssues threshold (d.snapshot s) = textIssues threshold s := by
  rw [textIssues, textIssues, field_frame_snapshot]
  cases hframe : s.field "frame" with
  | error e => rfl
  | ok frame =>
    exact issuesBy_snapshot_eq d hs fun r hr => textIssue_element d (hs.frame hframe) hr threshold

private theorem elementIssues_snapshot (hs : WholeCoordinates s) (threshold : Json) :
    elementIssues threshold (d.snapshot s) =
      (elementIssues threshold s).map (List.map d.issue) := by
  rw [elementIssues, elementIssues, field_frame_snapshot]
  cases hframe : s.field "frame" with
  | error e => rfl
  | ok frame =>
    have hissues := issuesBy_snapshot d hs
      fun r hr => elementIssue_element d (hs.frame hframe) hr threshold
    simp only [bind_map, ok_bind, isTruthy_box, map_bind, mapM_require_box, hissues,
      apply_ite (Except.map (List.map d.issue))]
    rfl

private theorem scrollIssues_snapshot (hs : WholeCoordinates s) :
    scrollIssues (d.snapshot s) = scrollIssues s :=
  issuesBy_snapshot_eq d hs fun _ _ => scrollIssue_element d

end Snapshots

/-- Where a slide sits on its page makes no difference to its issues, but for the boxes that are
told of elements past the frame: those are moved along with the slide. Of a well-formed snapshot
that is there, the issues are found. -/
theorem issuesAt_snapshot (d : Shift) {s : Json} (hs : WholeCoordinates s) (t : Int) :
    issuesAt t .textOverflow (d.snapshot s) = issuesAt t .textOverflow s ∧
      issuesAt t .elementOverflow (d.snapshot s) =
        (issuesAt t .elementOverflow s).map (List.map d.issue) ∧
      issuesAt t .scrollbar (d.snapshot s) = issuesAt t .scrollbar s ∧
      (WellFormedSnapshot s → s ≠ .null → ∀ kind, ∃ issues, issuesAt t kind s = .ok issues) := by
  refine ⟨textIssues_snapshot d hs _, elementIssues_snapshot d hs _, scrollIssues_snapshot d hs, ?_⟩
  intro hwell hnull kind
  cases hwell with
  | null => exact absurd rfl hnull
  | record hframe helements =>
    obtain ⟨issues, hissues, -⟩ := (Detection.yields_issuesOf (d := { threshold := .ofInt t }) rfl
      hframe helements kind).exists_ok
    exact ⟨issues, hissues⟩

/-- A slide with one element, which runs past its right edge. -/
def lone : Json :=
  .record [("frame", .record (Box.fields ⟨10, 10, 110, 85, 100, 75⟩)),
    ("elements", .list [.record [("tag", .text "pre"),
      ("rect", .record (Box.fields ⟨20, 20, 170, 60, 150, 40⟩))]])]

private theorem wholeCoordinates_lone : WholeCoordinates lone := by
  have hsides (b : Box) : WholeSides (.record b.fields) := by
    rintro fields ⟨⟩ name hname
    simp only [List.mem_cons, List.not_mem_nil, or_false] at hname
    rcases hname with rfl | rfl | rfl | rfl <;> rintro j ⟨⟩ <;> exact .int _
  rintro fields ⟨⟩
  refine ⟨?_, ?_⟩
  · rintro j ⟨⟩
    exact hsides _
  · rintro j ⟨⟩ items ⟨⟩ r hr fields rfl
    cases List.mem_singleton.mp hr
    refine ⟨?_, mayHold_of_absent rfl⟩
    rintro j ⟨⟩
    exact hsides _

/-- A box within the doubles is a rectangle. -/
private theorem TellsBox.rectangle {b : Box} {j : Json} (h : TellsBox b j)
    (hb : ∀ f ∈ b.fields, Measure f.2) : Rectangle j := by
  cases h with
  | record h =>
    refine .record fun name hname => ?_
    obtain ⟨f, hf, rfl⟩ : ∃ f ∈ b.fields, f.1 = name := by
      simpa [Box.fields, eq_comm] using hname
    exact ⟨f.2, h f hf, hb f hf⟩

theorem wellFormed_lone : WellFormedSnapshot lone := by
  refine .record ?_ ?_ (mayHold_of_absent rfl)
  · rintro j ⟨⟩
    apply RectangleOrNone.rectangle ((tellsBox_fields _).rectangle ?_)
    simp only [Box.fields, List.forall_mem_cons]
    refine ⟨?_, ?_, ?_, ?_, ?_, ?_, by simp⟩ <;> exact .number (by rfl)
  · rintro j ⟨⟩
    refine .list fun r hr => ?_
    cases List.mem_singleton.mp hr
    refine .record ⟨?_, mayHold_of_absent rfl, mayHold_of_absent rfl, mayHold_of_absent rfl,
      mayHold_of_absent rfl, mayHold_of_absent rfl, fun name hname => ?_, ?_,
      mayHold_of_absent rfl⟩
    · rintro j ⟨⟩
      exact .text _
    · have habsent : ∀ name ∈ ["clientWidth", "clientHeight", "scrollWidth", "scrollHeight"],
          (List.lookup name [("tag", Json.text "pre"), ("rect", .record
            (Box.fields ⟨20, 20, 170, 60, 150, 40⟩))]).isNone = true := by decide
      exact mayHold_of_absent (habsent name hname)
    · rintro j ⟨⟩
      apply RectangleOrNone.rectangle ((tellsBox_fields _).rectangle ?_)
      simp only [Box.fields, List.forall_mem_cons]
      refine ⟨?_, ?_, ?_, ?_, ?_, ?_, by simp⟩ <;> exact .number (by rfl)

/-- Ten pixels to the left and far down, the boxes are told from there; the overflow is as
before. -/
theorem issuesAt_snapshot_of_lone :
    let d : Shift := ⟨-10, 300⟩
    WholeCoordinates lone ∧ WellFormedSnapshot lone ∧
      (∃ e, issuesAt 5 .elementOverflow (d.snapshot lone) = .ok [⟨e, .element
        (Box.edges ⟨0, 310, 100, 385, 100, 75⟩) (Box.edges ⟨10, 320, 160, 360, 150, 40⟩)
        ⟨.ofInt 0, .ofInt 0, .ofInt 60, .ofInt 0⟩, none⟩]) ∧
      ∀ kind, ∃ issues, issuesAt 5 kind lone = .ok issues := by
  intro d
  obtain ⟨-, helement, -, hfound⟩ := issuesAt_snapshot d wholeCoordinates_lone 5
  exact ⟨wholeCoordinates_lone, wellFormed_lone, ⟨_, helement.trans rfl⟩,
    hfound wellFormed_lone (by simp [lone])⟩

end Inspection

end SlideOverflow
