import SlideOverflow.Proofs.Session.Rounds

/-! Warnings about invalid selectors over any number of detections. Each selector is warned about
once, however many snapshots list it, and no issue depends on it. -/
namespace SlideOverflow.Session

open Activity Inspection Text

variable {α β : Type} {page : Page}

/-! ### What is received -/

def Received (page : Page) (before made : List Call) (snapshot : Json) : Prop :=
  ∃ front request rest, made = front ++ .snapshot request :: rest ∧
    page (before ++ front) (.snapshot request) = .ok snapshot

private def heardBy (page : Page) (before : List Call) : Call → List Json
  | .snapshot request =>
    match page before (.snapshot request) with
    | .ok snapshot => heardIn snapshot
    | .error _ => []
  | _ => []

private def heard (page : Page) (before : List Call) : List Call → List Json
  | [] => []
  | c :: made => heardBy page before c ++ heard page (before ++ [c]) made

private theorem heard_append (before made made' : List Call) :
    heard page before (made ++ made') =
      heard page before made ++ heard page (before ++ made) made' := by
  induction made generalizing before with
  | nil => rw [List.nil_append, heard, List.nil_append, List.append_nil]
  | cons c made ih =>
    rw [List.cons_append, heard, heard, ih, List.append_assoc, List.append_assoc,
      List.singleton_append]

private theorem mem_heardBy {before : List Call} {c : Call} {j : Json} :
    j ∈ heardBy page before c ↔ ∃ request snapshot, c = .snapshot request ∧
      page before (.snapshot request) = .ok snapshot ∧ j ∈ heardIn snapshot := by
  constructor
  · intro h
    cases c with
    | snapshot request =>
      rw [heardBy] at h
      split at h
      · next snapshot hanswer => exact ⟨request, snapshot, rfl, hanswer, h⟩
      · cases h
    | _ => cases h
  · rintro ⟨request, snapshot, rfl, hanswer, hj⟩
    rwa [heardBy, hanswer]

private theorem mem_heard {before made : List Call} {j : Json} :
    j ∈ heard page before made ↔
      ∃ snapshot, Received page before made snapshot ∧ j ∈ heardIn snapshot := by
  constructor
  · intro h
    induction made generalizing before with
    | nil => cases h
    | cons c made ih =>
      rw [heard, List.mem_append] at h
      rcases h with h | h
      · obtain ⟨request, snapshot, rfl, hanswer, hj⟩ := mem_heardBy.mp h
        exact ⟨snapshot, ⟨[], request, made, rfl, by rwa [List.append_nil]⟩, hj⟩
      · obtain ⟨snapshot, ⟨front, request, rest, rfl, hanswer⟩, hj⟩ := ih h
        rw [List.append_assoc] at hanswer
        exact ⟨snapshot, ⟨c :: front, request, rest, rfl, hanswer⟩, hj⟩
  · rintro ⟨snapshot, ⟨front, request, rest, rfl, hanswer⟩, hj⟩
    rw [heard_append, heard, List.mem_append, List.mem_append]
    exact .inr (.inl (mem_heardBy.mpr ⟨request, snapshot, rfl, hanswer, hj⟩))

/-! ### What is told -/

/-- An activity warns of the selectors that it hears of, and of nothing else. -/
private def Hears (page : Page) (x : Activity α) : Prop :=
  ∀ s : Journal, ∃ made, s.Heard (x.run page s).2 made (heard page s.calls made)

private theorem Hears.quiet {x : Activity α} (h : ∀ s : Journal, s.Heard (x.run page s).2 [] []) :
    Hears page x :=
  fun s => ⟨[], h s⟩

private theorem Hears.bind {x : Activity α} {f : α → Activity β} (hx : Hears page x)
    (hf : ∀ a, Hears page (f a)) : Hears page (x >>= f) := by
  intro s
  obtain ⟨made, hmade⟩ := hx s
  cases ho : (x.run page s).1 with
  | error e =>
    rw [run_bind_error ho]
    exact ⟨made, hmade⟩
  | ok a =>
    rw [run_bind_ok ho]
    obtain ⟨made', hmade'⟩ := hf a (x.run page s).2
    refine ⟨made ++ made', ?_⟩
    rw [heard_append, ← hmade.calls]
    exact hmade.trans hmade'

private theorem Hears.ofOutcome_bind {o : Outcome α} {f : α → Activity β}
    (hf : ∀ a, o = .ok a → Hears page (f a)) : Hears page (ofOutcome o >>= f) := by
  cases o with
  | error e => exact .quiet .refl
  | ok a => exact hf a rfl

private theorem Hears.pure (a : α) : Hears page (Pure.pure a) := .quiet .refl

private theorem Hears.note (least : Nat) (message : String) : Hears page (note least message) :=
  .quiet fun s => .note s (by simp [LogEntry.note])

private theorem Hears.observe {x : Activity α} (hx : Hears page x) : Hears page (observe x) := by
  intro s
  rw [run_observe]
  exact hx s

private theorem Hears.census : Hears page (call .census) := by
  intro s
  rw [run_call]
  exact ⟨[.census], .call s .census⟩

private theorem Hears.takeSnapshot (request : SnapshotRequest) :
    Hears page (takeSnapshot request) := by
  intro s
  have hcall := Journal.Heard.call s (.snapshot request)
  cases hanswer : page s.calls (.snapshot request) with
  | error message =>
    rw [run_takeSnapshot_error hanswer]
    refine ⟨[.snapshot request], ?_⟩
    rwa [heard, heard, heardBy, hanswer]
  | ok snapshot =>
    rw [run_takeSnapshot_ok hanswer]
    refine ⟨[.snapshot request], ?_⟩
    rw [heard, heard, heardBy, hanswer, List.append_nil]
    exact hcall.trans (.foldl_hear _ _)

private theorem hears_activeSnapshot (settings : Settings) (detection : Detection) (n : Nat) :
    Hears page (activeSnapshot settings detection n) := by
  induction n with
  | zero => exact .quiet .refl
  | succ n ih =>
    rw [activeSnapshot]
    refine Hears.census.bind fun census => .ofOutcome_bind fun active hactive => ?_
    have hnote : ∃ message, active.2 = .note 3 message := by
      obtain ⟨_, _, h⟩ := Outcome.bind_eq_ok_iff.mp hactive
      cases h
      exact ⟨_, rfl⟩
    obtain ⟨message, hmessage⟩ := hnote
    simp only [hmessage]
    refine (Hears.note 3 message).bind fun _ => (Hears.takeSnapshot _).bind fun snapshot => ?_
    split
    · exact (Hears.note 2 _).bind fun _ => ih
    · exact .pure _

private theorem hears_detect (settings : Settings) (detection : Detection) :
    Hears page (detect settings detection) := by
  refine (hears_activeSnapshot settings detection rounds).bind fun snapshot =>
    .ofOutcome_bind fun issues _ => .ofOutcome_bind fun elements _ => ?_
  exact (Hears.note 2 _).bind fun _ => .pure issues

private theorem hears_detections (settings : Settings) (detection : Detection) (n : Nat) :
    Hears page (detections settings detection n) := by
  induction n with
  | zero => exact .pure _
  | succ n ih =>
    exact (hears_detect settings detection).observe.bind fun o =>
      ih.bind fun later => .pure (o :: later)

/-! ### Once each -/

private theorem same_iff_of_points {i j : Json} {points : List Nat} (h : j.points? = some points) :
    j.same i = true ↔ i.points? = some points := by
  have hsame : j.same i = (j.points? == i.points?) := by
    cases j with
    | text s => cases i <;> simp [Json.same, Json.quantity?, Json.points?]
    | codes c => cases i <;> simp [Json.same, Json.quantity?, Json.points?]
    | _ => cases h
  rw [hsame, h, beq_iff_eq, eq_comm]

private theorem same_text_iff {a b : String} : (Json.text a).same (.text b) = true ↔ a = b := by
  rw [same_iff_of_points rfl, Json.points?, Option.some.injEq]
  constructor
  · intro h
    have hcodes : Codes.ofString b = Codes.ofString a := congrArg Codes.mk h
    have hstring := congrArg Codes.string? hcodes
    rw [Codes.string?_ofString, Codes.string?_ofString] at hstring
    exact (Option.some.inj hstring).symm
  · rintro rfl
    rfl

/-- A text is mentioned at most once, and not at all where it is known. -/
private theorem countP_firstMentions (x : String) (known js : List Json) :
    (firstMentions known js).countP (Json.text x).same =
      if ¬known.any (Json.text x).same ∧ js.any (Json.text x).same then 1 else 0 := by
  have hpoints {j : Json} (hj : (Json.text x).same j = true) (i : Json) :
      j.same i = (Json.text x).same i := by
    rw [Bool.eq_iff_iff, same_iff_of_points ((same_iff_of_points rfl).mp hj),
      same_iff_of_points rfl]
  induction js generalizing known with
  | nil => simp [firstMentions]
  | cons j js ih =>
    rw [firstMentions, List.any_cons]
    cases hj : (Json.text x).same j with
    | true =>
      have hknown : known.any j.same = known.any (Json.text x).same := by
        congr 1
        exact funext (hpoints hj)
      rw [hknown]
      split
      · next h => simp [ih, h]
      · next h => simp [ih, h, hj]
    | false =>
      split
      · simp [ih]
      · simp [ih, hj]

def Lists (snapshot j : Json) : Prop :=
  ∃ listed, invalidSelectors snapshot = .ok listed ∧ j ∈ listed

private theorem mem_heardIn_iff {snapshot j : Json} (h : ∀ j, Lists snapshot j → Json.IsText j) :
    j ∈ heardIn snapshot ↔ Lists snapshot j := by
  cases hlisted : invalidSelectors snapshot with
  | error e => simp [heardIn, Lists, hlisted]
  | ok listed =>
    rw [heardIn_of_texts hlisted fun i hi => h i ⟨listed, hlisted, hi⟩]
    simp [Lists, hlisted]

/-- Warnings about different texts differ. -/
private theorem selectorWarning_text_inj {a b : String} :
    selectorWarning (.text a) = selectorWarning (.text b) ↔ a = b := by
  simp [selectorWarning, LogEntry.warning, Json.asText]

/-! ### What does not depend on them -/

/-- Two activities on two pages make the same calls and come to the same, up to a change of the
result, whatever was told and reported before. -/
private def Agrees (page page' : Page) (g : α → β) (x : Activity α) (x' : Activity β) : Prop :=
  ∀ s s' : Journal, s'.calls = s.calls → (x'.run page' s').1 = (x.run page s).1.map g ∧
    (x'.run page' s').2.calls = (x.run page s).2.calls

section Agreement

variable {page' : Page} {γ δ : Type} {g : α → β} {g' : γ → δ}

private theorem Agrees.bind {x : Activity α} {x' : Activity β} {f : α → Activity γ}
    {f' : β → Activity δ}
    (hx : Agrees page page' g x x') (hf : ∀ a, Agrees page page' g' (f a) (f' (g a))) :
    Agrees page page' g' (x >>= f) (x' >>= f') := by
  intro s s' hcalls
  obtain ⟨hsame, hafter⟩ := hx s s' hcalls
  cases ho : (x.run page s).1 with
  | error e =>
    rw [ho] at hsame
    rw [run_bind_error ho, run_bind_error hsame]
    exact ⟨rfl, hafter⟩
  | ok a =>
    rw [ho] at hsame
    rw [run_bind_ok ho, run_bind_ok hsame]
    exact hf a _ _ hafter

private theorem Agrees.ofOutcome_bind {o : Outcome α} {f : α → Activity γ} {f' : α → Activity δ}
    (hf : ∀ a, Agrees page page' g' (f a) (f' a)) :
    Agrees page page' g' (ofOutcome o >>= f) (ofOutcome o >>= f') := by
  cases o with
  | error e => exact fun _ _ hcalls => ⟨rfl, hcalls⟩
  | ok a => exact hf a

private theorem Agrees.pure (a : α) : Agrees page page' g (Pure.pure a) (Pure.pure (g a)) :=
  fun _ _ hcalls => ⟨rfl, hcalls⟩

private theorem Agrees.tell_bind {e : LogEntry} {f : Unit → Activity α} {f' : Unit → Activity β}
    (hf : Agrees page page' g (f ()) (f' ())) :
    Agrees page page' g (tell e >>= f) (tell e >>= f') := by
  intro s s' hcalls
  rw [run_bind, run_bind, run_tell, run_tell]
  exact hf _ _ hcalls

private theorem Agrees.observe {x x' : Activity α} (hx : Agrees page page' id x x') :
    Agrees page page' id (observe x) (observe x') := by
  intro s s' hcalls
  obtain ⟨hsame, hafter⟩ := hx s s' hcalls
  rw [Except.map_id] at hsame
  rw [run_observe, run_observe, hsame]
  exact ⟨rfl, hafter⟩

end Agreement

def Page.withSnapshots (page : Page) (g : Json → Json) : Page := fun calls c =>
  match c with
  | .snapshot _ => (page calls c).map g
  | _ => page calls c

/-- A change of snapshots that touches no more than the selectors that they list. -/
structure KeepsContent (g : Json → Json) : Prop where
  null_iff : ∀ {snapshot}, g snapshot = .null ↔ snapshot = .null
  hearing : ∀ snapshot, hearing (g snapshot) = hearing snapshot
  fieldOr : ∀ default snapshot {name}, name ≠ "invalidSelectors" →
    Json.fieldOr default (g snapshot) name = Json.fieldOr default snapshot name

/-- The snapshot with no selectors listed, unless its list cannot be gone through. -/
def muted (snapshot : Json) : Json :=
  match hearing snapshot with
  | .ok _ => snapshot.adjust fun name j => if name = "invalidSelectors" then .list [] else j
  | .error _ => snapshot

private theorem keepsContent_muted : KeepsContent muted := by
  refine ⟨fun {snapshot} => ?_, fun snapshot => ?_, fun default snapshot name hname => ?_⟩
  · rw [muted]
    split
    · cases snapshot <;> simp [Json.adjust]
    · rfl
  · rw [muted]
    split
    · next hheard =>
      rw [hheard, hearing, Json.isTruthy_adjust, invalidSelectors, Json.fieldOr_adjust (if_pos rfl)]
      rw [hearing, invalidSelectors] at hheard
      split
      · next htruthy =>
        rw [if_pos htruthy] at hheard
        cases hfield : Json.fieldOr (.list []) snapshot "invalidSelectors" with
        | error e =>
          rw [hfield] at hheard
          cases hheard
        | ok j => rfl
      · rfl
    · rfl
  · rw [muted]
    split
    · rw [Json.fieldOr_adjust (if_neg hname)]
      simp only [if_neg hname]
      exact Except.map_id ▸ rfl
    · rfl

namespace KeepsContent

variable {g : Json → Json} (hg : KeepsContent g)

include hg

private theorem issues (detection : Detection) (snapshot : Json) :
    detection.issues (g snapshot) = detection.issues snapshot := by
  have hframe : (g snapshot).field "frame" = snapshot.field "frame" :=
    hg.fieldOr .null snapshot (by decide)
  have hrecords : measuredRecords (g snapshot) = measuredRecords snapshot := by
    rw [measuredRecords, measuredRecords, hg.fieldOr (.list []) snapshot (by decide)]
  have hclass : detection.issuesOf (g snapshot) = detection.issuesOf snapshot := by
    funext kind
    cases kind <;>
      simp only [Detection.issuesOf, textIssues, elementIssues, scrollIssues, issuesBy, hframe,
        hrecords]
  rw [Detection.issues, Detection.issues, hclass]

private theorem agrees_takeSnapshot (request : SnapshotRequest) :
    Agrees page (page.withSnapshots g) g (takeSnapshot request) (takeSnapshot request) := by
  intro s s' hcalls
  have hcalls' : s'.calls ++ [Call.snapshot request] = s.calls ++ [.snapshot request] := by
    rw [hcalls]
  cases hanswer : page s.calls (.snapshot request) with
  | error message =>
    have hanswer' : page.withSnapshots g s'.calls (.snapshot request) = .error message := by
      rw [hcalls, Page.withSnapshots, hanswer]
      rfl
    rw [run_takeSnapshot_error hanswer, run_takeSnapshot_error hanswer']
    exact ⟨rfl, hcalls'⟩
  | ok snapshot =>
    have hanswer' : page.withSnapshots g s'.calls (.snapshot request) = .ok (g snapshot) := by
      rw [hcalls, Page.withSnapshots, hanswer]
      rfl
    rw [run_takeSnapshot_ok hanswer, run_takeSnapshot_ok hanswer', hg.hearing]
    refine ⟨?_, ?_⟩
    · cases Session.hearing snapshot <;> rfl
    · rw [(Journal.Heard.foldl_hear _ _).calls, (Journal.Heard.foldl_hear _ _).calls, hcalls']

private theorem agrees_activeSnapshot (settings : Settings) (detection : Detection) (n : Nat) :
    Agrees page (page.withSnapshots g) g (activeSnapshot settings detection n)
      (activeSnapshot settings detection n) := by
  have hcensus : Agrees page (page.withSnapshots g) id (call .census) (call .census) := by
    intro s s' hcalls
    rw [run_call, run_call, hcalls, Except.map_id]
    exact ⟨rfl, rfl⟩
  induction n with
  | zero => exact fun _ _ hcalls => ⟨rfl, hcalls⟩
  | succ n ih =>
    rw [activeSnapshot]
    refine hcensus.bind fun census => .ofOutcome_bind fun active => .tell_bind ?_
    refine (hg.agrees_takeSnapshot _).bind fun snapshot => ?_
    split
    · rw [hg.null_iff.mpr rfl]
      exact .tell_bind ih
    · next hsome =>
      split
      · next hnull => exact absurd (hg.null_iff.mp hnull) hsome
      · exact .pure snapshot

private theorem agrees_detections (settings : Settings) (detection : Detection) (n : Nat) :
    Agrees page (page.withSnapshots g) id (detections settings detection n)
      (detections settings detection n) := by
  have hdetect : Agrees page (page.withSnapshots g) id (detect settings detection)
      (detect settings detection) := by
    refine (hg.agrees_activeSnapshot settings detection rounds).bind fun snapshot => ?_
    rw [hg.issues, hg.fieldOr _ _ (by decide)]
    exact .ofOutcome_bind fun issues => .ofOutcome_bind fun elements => .tell_bind (.pure issues)
  induction n with
  | zero => exact .pure []
  | succ n ih => exact hdetect.observe.bind fun o => ih.bind fun later => .pure (o :: later)

end KeepsContent

/-! ### Any number of detections -/

def Journal.fresh (s : Journal) : Journal := { s with reported := [] }

open Classical in
/-- Selectors are warned about in the course of some calls: none that is not listed, and a text once
if a received snapshot lists it. -/
structure WarnsOnce (page : Page) (before made : List Call) (told : List Json) : Prop where
  listed : ∀ j ∈ told, ∃ snapshot, Received page before made snapshot ∧ j ∈ heardIn snapshot
  once : ∀ x, told.countP (Json.text x).same =
    if ∃ snapshot, Received page before made snapshot ∧
      ∃ j ∈ heardIn snapshot, (Json.text x).same j = true then 1 else 0

open Classical in
private theorem warnsOnce_firstMentions (page : Page) (before made : List Call) :
    WarnsOnce page before made (firstMentions [] (heard page before made)) := by
  refine ⟨fun j hj => mem_heard.mp (mem_of_mem_firstMentions hj), fun x => ?_⟩
  rw [countP_firstMentions]
  refine if_congr ?_ rfl rfl
  simp only [List.any_nil, Bool.false_eq_true, not_false_eq_true, true_and, List.any_eq_true,
    mem_heard]
  constructor
  · rintro ⟨j, ⟨snapshot, hsnapshot, hj⟩, hsame⟩
    exact ⟨snapshot, hsnapshot, j, hj, hsame⟩
  · rintro ⟨snapshot, hsnapshot, j, hj, hsame⟩
    exact ⟨j, ⟨snapshot, hsnapshot, hj⟩, hsame⟩

open Classical in
/-- Where only texts are listed, each of them has one warning among those that are told. -/
private theorem WarnsOnce.count {before made : List Call} {told : List Json}
    (h : WarnsOnce page before made told)
    (htexts : ∀ snapshot j, Received page before made snapshot → Lists snapshot j → Json.IsText j)
    (x : String) :
    (told.map selectorWarning).count (selectorWarning (.text x)) =
      if ∃ snapshot, Received page before made snapshot ∧ Lists snapshot (.text x) then 1
      else 0 := by
  have hlists {snapshot j : Json} (hsnapshot : Received page before made snapshot) :
      j ∈ heardIn snapshot ↔ Lists snapshot j :=
    mem_heardIn_iff fun i => htexts snapshot i hsnapshot
  have hentries : (told.map selectorWarning).count (selectorWarning (.text x)) =
      told.countP (Json.text x).same := by
    rw [List.count, List.countP_map]
    refine List.countP_congr fun j hj => ?_
    obtain ⟨snapshot, hsnapshot, hheard⟩ := h.listed j hj
    cases htexts snapshot j hsnapshot ((hlists hsnapshot).mp hheard) with
    | text y =>
      rw [Function.comp_apply, beq_iff_eq, selectorWarning_text_inj, same_text_iff, eq_comm]
  rw [hentries, h.once]
  refine if_congr ?_ rfl rfl
  constructor
  · rintro ⟨snapshot, hsnapshot, j, hj, hsame⟩
    have hlisted := (hlists hsnapshot).mp hj
    cases htexts snapshot j hsnapshot hlisted with
    | text y => exact ⟨snapshot, hsnapshot, same_text_iff.mp hsame ▸ hlisted⟩
  · rintro ⟨snapshot, hsnapshot, hlisted⟩
    exact ⟨snapshot, hsnapshot, _, (hlists hsnapshot).mpr hlisted, same_text_iff.mpr rfl⟩

open Classical in
/-- However many detections there are, and whatever the page answers: one warning is told about each
text that the received snapshots list as an invalid selector, and no other warning. What the
detections come to is the same whatever was told and reported before, and where nothing is
listed. -/
theorem detections_warnOnce (page : Page) (settings : Settings) (detection : Detection) (n : Nat)
    (s : Journal) :
    let result := (detections settings detection n).run page s.fresh
    ∃ made told, result.2.calls = s.calls ++ made ∧ WarnsOnce page s.calls made told ∧
      result.2.warnings = s.warnings ++ told.map selectorWarning ∧
      ((∀ snapshot j, Received page s.calls made snapshot → Lists snapshot j → Json.IsText j) →
        ∀ x, result.2.warnings.count (selectorWarning (.text x)) =
          s.warnings.count (selectorWarning (.text x)) +
            if ∃ snapshot, Received page s.calls made snapshot ∧ Lists snapshot (.text x)
            then 1 else 0) ∧
      ∀ s' : Journal, s'.calls = s.calls →
        ((detections settings detection n).run page s').1 = result.1 ∧
        ((detections settings detection n).run (page.withSnapshots muted) s').1 = result.1 := by
  intro result
  obtain ⟨made, hheard⟩ :=
    @hears_detections page settings detection n s.fresh
  have honce := warnsOnce_firstMentions page s.calls made
  refine ⟨made, _, hheard.calls, honce, hheard.warnings, fun htexts x => ?_, fun s' hcalls => ?_⟩
  · rw [hheard.warnings, List.count_append]
    exact congrArg _ (honce.count htexts x)
  · have hmuted : Agrees page (page.withSnapshots muted) id (detections settings detection n)
        (detections settings detection n) :=
      keepsContent_muted.agrees_detections settings detection n
    have hsame (u : Journal) (hu : s'.calls = u.calls) :
        ((detections settings detection n).run (page.withSnapshots muted) s').1 =
          ((detections settings detection n).run page u).1 :=
      (hmuted u s' hu).1.trans (congrFun Except.map_id _)
    exact ⟨(hsame s' rfl).symm.trans (hsame _ hcalls), hsame _ hcalls⟩

/-- A page whose list of excluded selectors holds one that is not valid. The slide is redrawn
once, and its elements cannot be counted at first. -/
def misconfigured : Page := fun calls c =>
  let listed : Json := .list [.text "div[", .text "div["]
  match c with
  | .census => .ok (.record [("slides", .list [.record [("index", .ofInt 0)]])])
  | .snapshot _ =>
    match calls.length with
    | 1 => .ok (.record [("invalidSelectors", listed), ("elements", .ofInt 3)])
    | 3 => .ok .null
    | _ => .ok (.record [("invalidSelectors", listed)])
  | _ => .ok .null

private theorem isText_of_misconfigured {calls : List Call} {request : SnapshotRequest}
    {snapshot j : Json} (h : misconfigured calls (.snapshot request) = .ok snapshot)
    (hj : Lists snapshot j) : Json.IsText j := by
  obtain ⟨listed, hlisted, hj⟩ := hj
  rw [misconfigured] at h
  split at h <;> cases h <;> cases hlisted
  all_goals
    simp only [List.mem_cons, List.not_mem_nil, or_false, or_self] at hj
    exact hj ▸ .text _

/-- Three detections, one of which fails, come to a single warning. -/
theorem detections_warnOnce_of_misconfigured :
    ∃ t, ((detections {} {} 3).run misconfigured (Journal.fresh {})).2 = t ∧
      (∀ snapshot j, Received misconfigured [] t.calls snapshot → Lists snapshot j →
        Json.IsText j) ∧
      t.warnings.count (selectorWarning (.text "div[")) = 1 := by
  let round : List Call := [.census, .snapshot (requestFor {} {} (.ofInt 0))]
  have hmuted : ((detections {} {} 3).run (misconfigured.withSnapshots muted) {}).2.calls =
      round ++ round ++ round ++ round := rfl
  have hround :=
    (keepsContent_muted.agrees_detections {} {} 3 (Journal.fresh {}) {} rfl).2.symm.trans hmuted
  obtain ⟨made, told, hcalls, -, -, hcount, -⟩ := detections_warnOnce misconfigured {} {} 3 {}
  refine ⟨_, rfl, ?_⟩
  generalize (detections {} {} 3).run misconfigured (Journal.fresh {}) = result at *
  obtain rfl : made = result.2.calls := hcalls.symm
  have htexts : ∀ snapshot j, Received misconfigured [] result.2.calls snapshot →
      Lists snapshot j → Json.IsText j := by
    rintro snapshot j ⟨front, request, rest, -, hanswer⟩ hj
    exact isText_of_misconfigured hanswer hj
  refine ⟨htexts, (hcount htexts "div[").trans ?_⟩
  rw [if_pos]
  · rfl
  · exact ⟨_, ⟨[.census], requestFor {} {} (.ofInt 0), round ++ round ++ round, hround, rfl⟩, _,
      rfl, List.mem_cons_self⟩

end SlideOverflow.Session
