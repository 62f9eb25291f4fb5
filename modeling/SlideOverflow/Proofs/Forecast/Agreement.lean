import SlideOverflow.Proofs.Deck.Texts
import SlideOverflow.Proofs.Forecast.Analysis
import SlideOverflow.Proofs.Forecast.Estimates

/-! Forecasts and the slides that they are about. The reader of a document and the predictor for it
each work out the canvas, the slots and the lines of code. They agree on every document, so that a
forecast tells of the slides as they are read. -/
namespace SlideOverflow.Forecast

open Number SlideOverflow.Geometry Deck

inductive Reason.IsByWidth : Reason → Prop where
  | heading {level : Nat} {e : Estimate} {advice : String} : IsByWidth (.wideHeading level e advice)
  | code {e : Estimate} : IsByWidth (.wideCode e)

structure Accounts (q : Predictor) (s : Slide) (n : ContentNode) (issues : List ExpectedIssue) :
    Prop where
  placed : ∀ i ∈ issues, i.slide = s.index ∧ i.first = n.first ∧ i.last = n.last
  other : n.level? = none → n.isCode = false → issues = []
  heading : ∀ level, n.form = .heading level → issues.length ≤ 1
  code : ∀ language lines closed, n.form = .codeBlock language lines closed → issues.length ≤ 2 ∧
    ∃ most : Int, q.ceilings.code = .int most ∧
      ((∃ i ∈ issues, i.reason.kind = .elementOverflow) ↔ most < lines)
  width : ∀ i ∈ issues, i.reason.IsByWidth → i.reason.limit = s.area.width

/-- A forecast is about a slide as it is read: a hidden slide is passed over; the issues of another
one are those of its nodes in their order, its risk is the highest one among them, and its advice is
each one of theirs where it comes first. -/
structure Agrees (q : Predictor) (s : Slide) (f : SlideForecast) : Prop where
  slide : f.slide = s
  hidden : f.hidden = true ↔ (s.metadata.getOrNull "hide").value = .bool true
  passed : f.hidden = true → f.issues = []
  found : f.hidden = false →
    ∃ parts, f.issues = List.flatten parts ∧ s.nodes.Forall₂ (Accounts q s) parts
  risk_none : f.issues = [] → f.risk = .low
  risk_le : ∀ i ∈ f.issues, i.reason.risk.rank ≤ f.risk.rank
  risk_reached : f.issues ≠ [] → ∃ i ∈ f.issues, i.reason.risk = f.risk
  advice_nodup : f.advice.Nodup
  advice_mem : ∀ a, a ∈ f.advice ↔ ∃ i ∈ f.issues, i.reason.advice = a
  advice_order : f.advice.Pairwise fun a b =>
    (f.issues.map (·.reason.advice)).idxOf a < (f.issues.map (·.reason.advice)).idxOf b

/-! ### Summaries -/

private theorem Risk.rank_foldl (issues : List ExpectedIssue) (r : Risk) :
    r.rank ≤ (issues.foldl (fun r i => r.max i.reason.risk) r).rank ∧
      (∀ i ∈ issues,
        i.reason.risk.rank ≤ (issues.foldl (fun r i => r.max i.reason.risk) r).rank) ∧
      (issues.foldl (fun r i => r.max i.reason.risk) r = r ∨
        ∃ i ∈ issues, i.reason.risk = issues.foldl (fun r i => r.max i.reason.risk) r) := by
  induction issues generalizing r with
  | nil => exact ⟨Nat.le_refl _, fun i hi => absurd hi List.not_mem_nil, .inl rfl⟩
  | cons i issues ih =>
    obtain ⟨hstart, hall, hreached⟩ := ih (r.max i.reason.risk)
    rw [rank_max] at hstart
    rw [List.foldl_cons]
    refine ⟨Nat.le_trans (Nat.le_max_left _ _) hstart,
      List.forall_mem_cons.mpr ⟨Nat.le_trans (Nat.le_max_right _ _) hstart, hall⟩, ?_⟩
    rcases hreached with hsame | ⟨j, hj, heq⟩
    · rw [hsame, max]
      split
      · exact .inr ⟨i, List.mem_cons_self, rfl⟩
      · exact .inl rfl
    · exact .inr ⟨j, .tail i hj, heq⟩

/-- The risk of a slide with issues is the risk of one of them. -/
private theorem SlideForecast.risk_reached {f : SlideForecast} (h : f.issues ≠ []) :
    ∃ i ∈ f.issues, i.reason.risk = f.risk := by
  obtain ⟨-, hall, hlow | hreached⟩ := Risk.rank_foldl f.issues .low
  · obtain ⟨i, hi⟩ := List.exists_mem_of_ne_nil _ h
    have hrank := hall i hi
    rw [hlow] at hrank
    refine ⟨i, hi, ?_⟩
    rw [risk, hlow]
    cases hrisk : i.reason.risk with
    | low => rfl
    | _ => rw [hrisk] at hrank; exact absurd hrank (by decide)
  · exact hreached

/-- Texts of which some are told already, each one told where it comes first. -/
private def tell (told : List String) (texts : List String) : List String :=
  texts.foldl (fun told a => if told.contains a then told else told ++ [a]) told

private theorem SlideForecast.advice_eq (f : SlideForecast) :
    f.advice = tell [] (f.issues.map (·.reason.advice)) := by
  rw [tell, List.foldl_map]
  rfl

private theorem tell_snoc (texts : List String) (a : String) :
    tell [] (texts ++ [a]) =
      if (tell [] texts).contains a then tell [] texts else tell [] texts ++ [a] := by
  rw [tell, List.foldl_append]
  rfl

private theorem mem_tell {texts : List String} {a : String} : a ∈ tell [] texts ↔ a ∈ texts := by
  induction texts using List.reverseRecOn with
  | nil => exact Iff.rfl
  | append_singleton texts b ih =>
    rw [tell_snoc, List.mem_append, List.mem_singleton]
    split
    · next hold =>
      rw [ih]
      refine ⟨.inl, ?_⟩
      rintro (ha | rfl)
      · exact ha
      · exact ih.mp (List.contains_iff_mem.mp hold)
    · rw [List.mem_append, List.mem_singleton, ih]

/-- What is told comes in the order in which it was mentioned first. -/
private theorem tell_pairwise (texts : List String) :
    (tell [] texts).Pairwise fun a b => texts.idxOf a < texts.idxOf b := by
  induction texts using List.reverseRecOn with
  | nil => exact .nil
  | append_singleton texts b ih =>
    have hold : (tell [] texts).Pairwise fun x y =>
        (texts ++ [b]).idxOf x < (texts ++ [b]).idxOf y := by
      refine ih.imp_of_mem fun hx hy hlt => ?_
      rw [List.idxOf_append_of_mem (mem_tell.mp hx), List.idxOf_append_of_mem (mem_tell.mp hy)]
      exact hlt
    rw [tell_snoc]
    split
    · exact hold
    · next hnew =>
      refine List.pairwise_append.mpr ⟨hold, List.pairwise_singleton _ _, fun x hx y hy => ?_⟩
      have hx' := mem_tell.mp hx
      have hb : b ∉ texts := fun hb => hnew (List.contains_iff_mem.mpr (mem_tell.mpr hb))
      rw [List.mem_singleton.mp hy, List.idxOf_append_of_mem hx', List.idxOf_append_of_notMem hb]
      have hlt := List.idxOf_lt_length_of_mem hx'
      omega

/-! ### Ceilings and lines of code -/

private theorem usableCeiling_pos {v : Metadata.Value} {n : Int}
    (h : usableCeiling? v = .ok (some n)) :
    0 < n := by
  rw [usableCeiling?] at h
  split at h
  · split at h
    · next hpos =>
      cases h
      exact hpos
    · cases h
  · cases h
  · cases h

/-- A document can replace ceilings, but none by one that allows for nothing. -/
private theorem get_ofDatum_pos {settings : Settings} (hs : settings.Valid) {d : Metadata.Datum}
    {c : Ceilings} {unusable : List UnusableCeiling}
    (h : (Ceilings.ofSettings settings).ofDatum d = .ok (c, unusable)) (k : Ceiling) :
    ∃ n, 0 < n ∧ c.get k = .int n := by
  have heach := exists_effect_of_foldlM (ofDatum_eq.symm.trans h)
  choose effect heffect using fun k : Ceiling => heach k k.mem_all
  obtain ⟨c', hc', hget⟩ := @ofDatum_effects (.ofSettings settings) d effect heffect
  cases h.symm.trans hc'
  rw [hget]
  cases hk : effect k with
  | replaced n =>
    have hfrom := Effect.of_eq_ok_iff.mp (heffect k)
    rw [hk] at hfrom
    cases hfrom with
    | replaced _ husable => exact ⟨n, usableCeiling_pos husable, rfl⟩
  | _ => exact get_ofSettings_pos hs k

private theorem Predictor.codeLines_joinLines {code : List Line} (hne : code ≠ [])
    (h : ∀ l ∈ code, '\n' ∉ l.toList) : codeLines (joinLines code) = code.map String.toList := by
  have hsplit := splitLines_joinLines hne h
  calc
    codeLines (joinLines code) =
        (splitLines (joinLines code).toList).map String.toList := by simp [codeLines, splitLines]
    _ = code.map String.toList := by rw [hsplit]

/-- Splitting the text of a block of code again finds the lines that it was read from, except that
an empty block then has one line. No ceiling tells none from one. -/
private theorem Predictor.codeIsLong_iff {q : Predictor} {most : Int} (hpos : 0 < most)
    (hmost : q.ceilings.code = .int most) {code : List Line} (h : ∀ l ∈ code, '\n' ∉ l.toList) :
    q.codeIsLong (joinLines code) = true ↔ most < code.length := by
  rw [codeIsLong, hmost, Quantity.less_int, decide_eq_true_iff]
  cases code with
  | nil =>
    have hone : (codeLines (joinLines [])).length = 1 := rfl
    rw [hone, List.length_nil]
    omega
  | cons l code =>
    rw [codeLines_joinLines (List.cons_ne_nil _ _) h, List.length_map]

private theorem Predictor.length_longest_le {ls : List (List Char)} {m : Nat}
    (h : ∀ l ∈ ls, l.length ≤ m) : (longest ls).length ≤ m := by
  have hfold (best : List Char) (ls : List (List Char)) (hbest : best.length ≤ m)
      (h : ∀ l ∈ ls, l.length ≤ m) : (ls.foldl (fun best l =>
        if best.length < l.length then l else best) best).length ≤ m := by
    induction ls generalizing best with
    | nil => exact hbest
    | cons l ls ih =>
      obtain ⟨hl, hls⟩ := List.forall_mem_cons.mp h
      rw [List.foldl_cons]
      split
      · exact ih l hl hls
      · exact ih best hbest hls
  cases ls with
  | nil => exact Nat.zero_le m
  | cons l ls =>
    obtain ⟨hl, hls⟩ := List.forall_mem_cons.mp h
    exact hfold l ls hl hls

private theorem Predictor.length_longest_codeLines_le {code : List Line} {m : Nat}
    (h : ∀ l ∈ code, '\n' ∉ l.toList ∧ l.length ≤ m) :
    (longest (codeLines (joinLines code))).length ≤ m := by
  cases code with
  | nil => exact Nat.zero_le m
  | cons l code =>
    rw [codeLines_joinLines (List.cons_ne_nil _ _) fun l hl => (h l hl).1]
    refine length_longest_le fun cs hcs => ?_
    obtain ⟨l, hl, rfl⟩ := List.mem_map.mp hcs
    exact (String.length_toList (s := l)).symm ▸ (h l hl).2

/-! ### One canvas -/

private def SharesCanvas (q : Predictor) (s : Slide) : Prop :=
  ∃ (width : Quantity) (height : Int),
    Calibration.standard ⟨width, .int height⟩ = .ok q.calibration ∧
      primarySlot s.layout.toString ⟨width, .int height⟩ = .ok s.area

private theorem Predictor.ofConfig_spec {settings : Settings} {config : DeckConfig} {q : Predictor}
    {unusable : List UnusableCeiling} (h : ofConfig settings config = .ok (q, unusable)) :
    (∃ height, canvasHeight settings config.canvasWidth config.aspectRatio.toString = .ok height ∧
        Calibration.standard ⟨config.canvasWidth, height⟩ = .ok q.calibration) ∧
      (Ceilings.ofSettings settings).ofDatum
        ((config.checker.getD .empty).getOrNull "thresholds") = .ok (q.ceilings, unusable) := by
  obtain ⟨height, hheight, h⟩ := Outcome.bind_eq_ok_iff.mp h
  obtain ⟨calibration, hcalibration, h⟩ := Outcome.bind_eq_ok_iff.mp h
  obtain ⟨⟨ceilings, unusable⟩, hceilings, h⟩ := Outcome.bind_eq_ok_iff.mp h
  cases h
  exact ⟨⟨height, hheight, hcalibration⟩, hceilings⟩

private theorem primarySlot_of_readSlide {settings : Settings} {config : DeckConfig} {index : Nat}
    {r : RawSlide} {s : Slide} (h : (readSlide settings config index r).outcome = .ok s) :
    ∃ height, canvasHeight settings config.canvasWidth config.aspectRatio.toString = .ok height ∧
      primarySlot s.layout.toString ⟨config.canvasWidth, height⟩ = .ok s.area := by
  simp only [readSlide, Findings.outcome_bind, Findings.outcome_ofOutcome, Findings.outcome_warn,
    Findings.outcome_pure] at h
  obtain ⟨metadata, -, h⟩ := Outcome.bind_eq_ok_iff.mp h
  obtain ⟨layout, -, h⟩ := Outcome.bind_eq_ok_iff.mp h
  obtain ⟨height, hheight, h⟩ := Outcome.bind_eq_ok_iff.mp h
  obtain ⟨area, harea, h⟩ := Outcome.bind_eq_ok_iff.mp h
  cases h
  exact ⟨height, hheight, harea⟩

/-- The predictor of a presentation is one for all of its slides. -/
private theorem sharesCanvas_of_read {settings : Settings} {keys : MetadataKeys}
    {source : List Char} {p : Presentation} {q : Predictor} {unusable : List UnusableCeiling}
    (hread : (Presentation.read settings keys source).1 = .ok p)
    (hq : Predictor.ofConfig settings p.config = .ok (q, unusable)) {s : Slide}
    (hs : s ∈ p.slides) : SharesCanvas q s := by
  obtain ⟨⟨height, hheight, hcalibration⟩, -⟩ := Predictor.ofConfig_spec hq
  obtain ⟨-, -, hall, -⟩ := readSlides_spec (Presentation.readSlides_of_read hread)
  obtain ⟨height', hheight', hslot⟩ := primarySlot_of_readSlide (hall s hs)
  cases hheight.symm.trans hheight'
  obtain ⟨whole, -, rfl⟩ := canvasHeight_eq_ok_iff.mp hheight
  exact ⟨_, whole, hcalibration, hslot⟩

section OneSlide

variable {q : Predictor} {s : Slide}

private theorem SharesCanvas.checkHeading_ok (h : SharesCanvas q s) (level : Nat) {text : String}
    (hlength : text.length < 2 ^ 63) :
    ∃ found, q.checkHeading s.layout.toString level text = .ok found ∧
      ∀ r ∈ found, r.IsByWidth → r.limit = s.area.width := by
  obtain ⟨width, height, hcalibration, hslot⟩ := h
  obtain ⟨e, he, havailable, hexcess⟩ := estimate_ok hcalibration
    (TextRole.isWhole_ofLevel level) hlength hslot
  rw [Predictor.checkHeading, he]
  change ∃ found, (if e.overflows then _ else _) = Except.ok found ∧ _
  cases hover : e.overflows with
  | true =>
    obtain ⟨x, y, hx, hy⟩ := hexcess hover
    obtain ⟨advice, hadvice⟩ : ∃ advice, Predictor.wideHeadingAdvice e = .ok advice := by
      rw [Predictor.wideHeadingAdvice, hx, havailable, hy]
      exact ⟨_, rfl⟩
    rw [hadvice]
    refine ⟨some (.wideHeading level e advice), rfl, fun r hr _ => ?_⟩
    cases hr
    exact congrArg Area.width havailable
  | false =>
    cases q.headingIsLong text.length level with
    | true =>
      refine ⟨some (.longHeading level text.length (q.ceilings.heading level)), rfl, ?_⟩
      intro r hr hwidth
      cases hr
      cases hwidth
    | false =>
      refine ⟨none, rfl, fun r hr => ?_⟩
      cases hr

private theorem SharesCanvas.checkCode_ok (h : SharesCanvas q s) {code : String}
    (hlength : (Predictor.longest (Predictor.codeLines code)).length < 2 ^ 63) :
    ∃ found, q.checkCode s.layout.toString code = .ok found ∧ found.length ≤ 2 ∧
      ((∃ r ∈ found, r.kind = .elementOverflow) ↔ q.codeIsLong code = true) ∧
      ∀ r ∈ found, r.IsByWidth → r.limit = s.area.width := by
  obtain ⟨width, height, hcalibration, hslot⟩ := h
  have hline : (String.ofList (Predictor.longest (Predictor.codeLines code))).length < 2 ^ 63 := by
    rw [String.length_ofList]
    exact hlength
  obtain ⟨e, he, havailable, -⟩ :=
    estimate_ok hcalibration TextRole.isWhole_code hline hslot
  have hwide : (Reason.wideCode e).limit = s.area.width := congrArg Area.width havailable
  have hlimit : (Reason.wideCode e).limit = s.area.width := congrArg Area.width havailable
  refine ⟨(if q.codeIsLong code then
      [.longCode (Predictor.codeLines code).length q.ceilings.code] else []) ++
    (if e.overflows then [.wideCode e] else []), ?_, ?_, ?_, fun r hr hwidth => ?_⟩
  · rw [Predictor.checkCode, he]
    rfl
  · cases q.codeIsLong code <;> cases e.overflows <;> simp
  · cases q.codeIsLong code <;> cases e.overflows <;> simp [Reason.kind]
  · rcases List.mem_append.mp hr with hr | hr
    · split at hr
      · cases List.mem_singleton.mp hr
        cases hwidth
      · cases hr
    · split at hr
      · cases List.mem_singleton.mp hr
        exact hlimit
      · cases hr

private def Predictor.nodeIssues (q : Predictor) (s : Slide) (n : ContentNode) :
    Outcome (List ExpectedIssue) := do
  return (← q.checkNode s.layout.toString n).map (⟨s.index, n.first, n.last, ·⟩)

section OneNode

variable {n : ContentNode}

/-- Issues are placed where their node is, so that only the reasons have to be accounted for. -/
private theorem accounts_of_reasons {reasons : List Reason}
    (other : n.level? = none → n.isCode = false → reasons = [])
    (heading : ∀ level, n.form = .heading level → reasons.length ≤ 1)
    (code : ∀ language lines closed, n.form = .codeBlock language lines closed →
      reasons.length ≤ 2 ∧ ∃ most : Int, q.ceilings.code = .int most ∧
        ((∃ r ∈ reasons, r.kind = .elementOverflow) ↔ most < lines))
    (width : ∀ r ∈ reasons, r.IsByWidth → r.limit = s.area.width) :
    Accounts q s n (reasons.map (⟨s.index, n.first, n.last, ·⟩)) where
  placed := fun i hi => by
    obtain ⟨r, -, rfl⟩ := List.mem_map.mp hi
    exact ⟨rfl, rfl, rfl⟩
  other := fun hlevel hcode => by rw [other hlevel hcode, List.map_nil]
  heading := fun level hform => by
    rw [List.length_map]
    exact heading level hform
  code := fun language lines closed hform => by
    obtain ⟨htwo, most, hmost, hlong⟩ := code language lines closed hform
    rw [List.length_map]
    refine ⟨htwo, most, hmost, ?_⟩
    rw [← hlong]
    simp
  width := fun i hi => by
    obtain ⟨r, hr, rfl⟩ := List.mem_map.mp hi
    exact width r hr

private theorem accounts_of_heading {level : Nat} (hform : n.form = .heading level)
    {found : Option Reason} (hwidth : ∀ r ∈ found, r.IsByWidth → r.limit = s.area.width) :
    Accounts q s n (found.toList.map (⟨s.index, n.first, n.last, ·⟩)) := by
  refine accounts_of_reasons (fun hlevel => ?_) (fun _ _ => ?_) ?_
    fun r hr => hwidth r (Option.mem_toList.mp hr)
  · rw [ContentNode.level?, hform] at hlevel
    cases hlevel
  · cases found <;> simp
  · intro language lines closed hcode
    cases hform.symm.trans hcode

private theorem accounts_of_code {language : String} {lines : Nat} {closed : Bool}
    (hform : n.form = .codeBlock language lines closed) {found : List Reason}
    (htwo : found.length ≤ 2) {most : Int} (hmost : q.ceilings.code = .int most)
    (hlong : (∃ r ∈ found, r.kind = .elementOverflow) ↔ most < lines)
    (hwidth : ∀ r ∈ found, r.IsByWidth → r.limit = s.area.width) :
    Accounts q s n (found.map (⟨s.index, n.first, n.last, ·⟩)) := by
  refine accounts_of_reasons (fun _ hother => ?_) (fun level hheading => ?_) ?_ hwidth
  · rw [ContentNode.isCode, hform] at hother
    cases hother
  · cases hform.symm.trans hheading
  · intro language' lines' closed' hcode
    cases hform.symm.trans hcode
    exact ⟨htwo, most, hmost, hlong⟩

private theorem SharesCanvas.nodeIssues_ok (h : SharesCanvas q s) {most : Int} (hpos : 0 < most)
    (hmost : q.ceilings.code = .int most) {lines : List Line} {m : Nat} (hm : m < 2 ^ 63)
    (hlines : ∀ l ∈ lines, '\n' ∉ l.toList ∧ l.length ≤ m) (hn : n.Measured lines) :
    ∃ issues, q.nodeIssues s n = .ok issues ∧ Accounts q s n issues := by
  have hissues {reasons : List Reason} (hcheck : q.checkNode s.layout.toString n = .ok reasons) :
      q.nodeIssues s n = .ok (reasons.map (⟨s.index, n.first, n.last, ·⟩)) := by
    rw [Predictor.nodeIssues, hcheck]
    rfl
  cases hn with
  | @heading level l text hform hl htext hle =>
    have hlength : text.length < 2 ^ 63 :=
      Nat.lt_of_le_of_lt (Nat.le_trans hle (hlines l hl).2) hm
    obtain ⟨found, hfound, hwidth⟩ := h.checkHeading_ok level hlength
    refine ⟨_, hissues ?_, accounts_of_heading hform hwidth⟩
    rw [Predictor.checkNode, hform, htext]
    change (do return (← q.checkHeading s.layout.toString level text).toList) = _
    rw [hfound]
    rfl
  | @code language closed code hform hcode htext =>
    have hclean : ∀ l ∈ code, '\n' ∉ l.toList := fun l hl => (hlines l (hcode l hl)).1
    have hlength := Predictor.length_longest_codeLines_le fun l hl => hlines l (hcode l hl)
    obtain ⟨found, hfound, htwo, hlong, hwidth⟩ :=
      h.checkCode_ok (Nat.lt_of_le_of_lt hlength hm)
    rw [Predictor.codeIsLong_iff hpos hmost hclean] at hlong
    refine ⟨_, hissues ?_, accounts_of_code hform htwo hmost hlong hwidth⟩
    rw [Predictor.checkNode, hform, htext]
    exact hfound
  | other hlevel hcode =>
    have hcheck : q.checkNode s.layout.toString n = .ok [] := by
      rw [Predictor.checkNode]
      split
      · next hform =>
        rw [ContentNode.level?, hform] at hlevel
        cases hlevel
      · next hform =>
        rw [ContentNode.isCode, hform] at hcode
        cases hcode
      · rfl
    refine ⟨_, hissues hcheck, accounts_of_reasons (fun _ _ => rfl) (fun _ _ => Nat.zero_le 1) ?_
      fun r hr => absurd hr List.not_mem_nil⟩
    intro language count closed hform
    rw [ContentNode.isCode, hform] at hcode
    cases hcode

end OneNode

/-- If each element has a result that is related to it, the list has such results in its order. -/
private theorem exists_mapM_forall₂ {α β : Type} {f : α → Outcome β} {R : α → β → Prop} {l : List α}
    (h : ∀ a ∈ l, ∃ b, f a = .ok b ∧ R a b) : ∃ bs, l.mapM f = .ok bs ∧ l.Forall₂ R bs := by
  induction l with
  | nil => exact ⟨[], rfl, .nil⟩
  | cons a l ih =>
    obtain ⟨b, hb, hR⟩ := h a List.mem_cons_self
    obtain ⟨bs, hbs, hRs⟩ := ih fun c hc => h c (.tail a hc)
    refine ⟨b :: bs, ?_, .cons hR hRs⟩
    rw [List.mapM_cons, hb, hbs]
    rfl

/-- The risk and the advice of a forecast always follow from its issues. -/
private theorem agrees_of_found {f : SlideForecast}
    (hidden : f.hidden = true ↔ (f.slide.metadata.getOrNull "hide").value = .bool true)
    (passed : f.hidden = true → f.issues = [])
    (found : f.hidden = false →
      ∃ parts, f.issues = List.flatten parts ∧ f.slide.nodes.Forall₂ (Accounts q f.slide) parts) :
    Agrees q f.slide f where
  slide := rfl
  hidden := hidden
  passed := passed
  found := found
  risk_none := fun hnone => by rw [SlideForecast.risk, hnone, List.foldl_nil]
  risk_le := (Risk.rank_foldl f.issues .low).2.1
  risk_reached := SlideForecast.risk_reached
  advice_nodup := by
    rw [f.advice_eq]
    refine (tell_pairwise _).imp fun hlt => ?_
    rintro rfl
    exact Nat.lt_irrefl _ hlt
  advice_mem := fun a => by rw [f.advice_eq, mem_tell, List.mem_map]
  advice_order := by
    rw [f.advice_eq]
    exact tell_pairwise _

private theorem Predictor.forecast_ok
    (hparts : ∀ n ∈ s.nodes, ∃ issues, q.nodeIssues s n = .ok issues ∧
    Accounts q s n issues) : ∃ f, q.forecast s = .ok f ∧ Agrees q s f := by
  cases hhidden : isHidden s with
  | true =>
    have hforecast : q.forecast s = .ok ⟨s, true, []⟩ := if_pos hhidden
    refine ⟨_, hforecast, agrees_of_found (f := ⟨s, true, []⟩) ?_ (fun _ => rfl)
      fun h => absurd h.symm Bool.false_ne_true⟩
    exact iff_of_true rfl (of_decide_eq_true hhidden)
  | false =>
    obtain ⟨parts, hparts, haccounts⟩ := exists_mapM_forall₂ hparts
    have hexpected : q.expected s = .ok parts.flatten := by
      rw [expected]
      change (do return List.flatten (← s.nodes.mapM (q.nodeIssues s))) = _
      rw [hparts]
      rfl
    have hforecast : q.forecast s = .ok ⟨s, false, parts.flatten⟩ := by
      rw [forecast, hhidden, hexpected]
      rfl
    refine ⟨_, hforecast, agrees_of_found (f := ⟨s, false, parts.flatten⟩) ?_
      (fun h => absurd h Bool.false_ne_true) fun _ => ⟨parts, rfl, haccounts⟩⟩
    exact iff_of_false Bool.false_ne_true (of_decide_eq_false hhidden)

end OneSlide

/-- The forecast for a presentation tells of its slides one by one and agrees with each of them as
it is read. The bound is on the texts that can be held in memory at all: a length is a machine word
there. -/
theorem forecast_agrees {settings : Settings} {keys : MetadataKeys} {source : List Char}
    {p : Presentation} {q : Predictor} {unusable : List UnusableCeiling} (hs : settings.Valid)
    (hsource : source.length < 2 ^ 63)
    (hread : (Presentation.read settings keys source).1 = .ok p)
    (hq : Predictor.ofConfig settings p.config = .ok (q, unusable)) :
    ∃ all, (forecast settings none p).1 = .ok all ∧ p.slides.Forall₂ (Agrees q) all := by
  obtain ⟨most, hpos, hmost⟩ := get_ofDatum_pos hs (Predictor.ofConfig_spec hq).2 .code
  obtain ⟨all, hall, hagrees⟩ : ∃ all, p.slides.mapM q.forecast = .ok all ∧
      p.slides.Forall₂ (Agrees q) all := by
    refine exists_mapM_forall₂ fun s hslide => Predictor.forecast_ok fun n hn => ?_
    exact (sharesCanvas_of_read hread hq hslide).nodeIssues_ok hpos hmost hsource
      (fun _ => mem_sourceLines) (Presentation.nodes_measured hread hslide hn)
  refine ⟨all, ?_, hagrees⟩
  rw [forecast, hq]
  dsimp only
  rw [Predictor.forecastAll, hall]

/-- A hidden slide, a slide with a wide heading and an empty block of code, and a slide in two
columns. -/
theorem forecast_agrees_of_three_slides :
    let source := ("---\nhide: true\n---\n# Out of sight\n---\n\n## Some thirty characters are " ++
      "too wide in this place\n\n```\n```\n---\nlayout: two-cols\n---\nText").toList
    Settings.Valid {} ∧ source.length < 2 ^ 63 ∧
      ∃ p, (Presentation.read {} {} source).1 = .ok p ∧
        ∃ r, Predictor.ofConfig {} p.config = .ok r ∧
          ∃ all, (forecast {} none p).1 = .ok all ∧
            (all.map fun f => (f.hidden, f.issues.map (·.reason.kind))) =
              [(true, []), (false, [.textOverflow]), (false, [])] ∧
            p.slides.Forall₂ (Agrees r.1) all := by
  intro source
  have hsource : source.length < 2 ^ 63 := by decide +kernel
  obtain ⟨p, hp, r, hr, all, hall, hissues⟩ : ∃ p, (Presentation.read {} {} source).1 = .ok p ∧
      ∃ r, Predictor.ofConfig {} p.config = .ok r ∧ ∃ all, (forecast {} none p).1 = .ok all ∧
        (all.map fun f => (f.hidden, f.issues.map (·.reason.kind))) =
          [(true, []), (false, [.textOverflow]), (false, [])] := by
    decide +kernel
  obtain ⟨all', hall', hagrees⟩ := forecast_agrees Settings.valid_default hsource hp hr
  cases hall.symm.trans hall'
  exact ⟨Settings.valid_default, hsource, p, hp, r, hr, all, hall, hissues, hagrees⟩

end SlideOverflow.Forecast
