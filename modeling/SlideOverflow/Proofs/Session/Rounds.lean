import SlideOverflow.Proofs.Inspection.Failures
import SlideOverflow.Proofs.Inspection.Shift
import SlideOverflow.Proofs.Inspection.Switches
import SlideOverflow.Proofs.Session.Course
import SlideOverflow.Proofs.Session.Selectors

/-! Rounds of detection: each one takes a census, and then a snapshot of the slide that the census
tells. There is a second round exactly when the first snapshot is null, and what a detection comes
to is told by its rounds alone, in one call after the other. -/
namespace SlideOverflow.Session

open Activity Inspection

section Rounds

variable (page : Page) (settings : Settings) (detection : Detection)

/-- The course of a round after some calls, and what it comes to. A snapshot is asked for only where
the census tells a slide, and then it is one of this very slide. -/
inductive Round (before : List Call) : List Call → Outcome Json → Prop where
  | censusFailed {message : String} :
      page before .census = .error message → Round before [.census] (.error (.page message))
  | unresolved {census : Json} {e : Failure} :
      page before .census = .ok census → activeSlide census = .error e →
      Round before [.census] (.error e)
  | snapshotFailed {census slide : Json} {found : LogEntry} {message : String} :
      page before .census = .ok census → activeSlide census = .ok (slide, found) →
      page (before ++ [.census]) (.snapshot (requestFor settings detection slide)) =
        .error message →
      Round before [.census, .snapshot (requestFor settings detection slide)]
        (.error (.page message))
  | taken {census slide snapshot : Json} {found : LogEntry} :
      page before .census = .ok census → activeSlide census = .ok (slide, found) →
      page (before ++ [.census]) (.snapshot (requestFor settings detection slide)) =
        .ok snapshot →
      Round before [.census, .snapshot (requestFor settings detection slide)] (.ok snapshot)

/-- The course of some rounds at most. All but the last one give a null snapshot. -/
inductive Rounds : Nat → List Call → List (List Call) → Outcome Json → Prop where
  | spent {before : List Call} : Rounds 0 before [] (.error .slideVanished)
  | last {n : Nat} {before made : List Call} {o : Outcome Json} :
      Round page settings detection before made o → o ≠ .ok .null → Rounds (n + 1) before [made] o
  | next {n : Nat} {before made : List Call} {later : List (List Call)} {o : Outcome Json} :
      Round page settings detection before made (.ok .null) →
      Rounds n (before ++ made) later o → Rounds (n + 1) before (made :: later) o

/-- Where a round of a detection starts: at first, and again after a null snapshot. -/
inductive Starts (before : List Call) : List Call → Prop where
  | first : Starts before before
  | second {made : List Call} : Round page settings detection before made (.ok .null) →
      Starts before (before ++ made)

def TellsNone (calls : List Call) : Prop :=
  ∃ census address, page calls .census = .ok census ∧
    activeSlide census = .error (.noActiveSlide address)

def ShowsWell : Prop :=
  ∀ calls request snapshot, page calls (.snapshot request) = .ok snapshot →
    WellFormedSnapshot snapshot

end Rounds

inductive NotFound : Failure → Prop where
  | noActiveSlide (address : String) : NotFound (.noActiveSlide address)
  | slideVanished : NotFound .slideVanished

variable {page : Page} {settings : Settings} {detection : Detection}

/-! ### Courses -/

private theorem takeSnapshot_makes (hpage : ShowsWell page) (request : SnapshotRequest)
    (s : Journal) :
    Makes page s (takeSnapshot request) [.snapshot request]
      ((page s.calls (.snapshot request)).mapError Failure.page) := by
  cases hanswer : page s.calls (.snapshot request) with
  | error message =>
    have hrun := run_takeSnapshot_error hanswer
    exact ⟨by rw [hrun]; rfl, by rw [hrun]; rfl⟩
  | ok snapshot =>
    have hrun := run_takeSnapshot_ok hanswer
    have hhearing : hearing snapshot = .ok () := by
      cases hpage _ _ _ hanswer with
      | null => rfl
      | record _ _ hinvalid =>
        obtain ⟨listed, hlisted, htexts⟩ := Outcome.Yields.exists_ok <|
          (Json.yields_fieldOr .nil hinvalid).bind fun _ => Json.yields_items
        exact hearing_of_texts hlisted htexts
    have hheard := Journal.Heard.foldl_hear { s with calls := s.calls ++ [.snapshot request] }
      (heardIn snapshot)
    constructor
    · rw [hrun, hhearing]
      rfl
    · rw [hrun, Journal.moment, hheard.calls, hheard.total, List.append_nil]
      rfl

private def takeRound (settings : Settings) (detection : Detection) : Activity (Json × Json) := do
  let census ← call .census
  let (slide, found) ← ofOutcome (activeSlide census)
  tell found
  return (slide, ← takeSnapshot (requestFor settings detection slide))

private theorem activeSnapshot_succ (n : Nat) :
    activeSnapshot settings detection (n + 1) = takeRound settings detection >>= fun taken =>
      match taken.2 with
      | .null => do
        note 2 ("Slide page " ++ taken.1.asText ++
          " disappeared before inspection, retaking census")
        activeSnapshot settings detection n
      | snapshot => return snapshot := by
  rw [activeSnapshot, takeRound, bind_assoc]
  refine bind_congr fun census => ?_
  rw [bind_assoc]
  refine bind_congr fun active => ?_
  rw [bind_assoc]
  refine bind_congr fun _ => ?_
  rw [bind_assoc]
  refine bind_congr fun snapshot => ?_
  cases snapshot <;> rfl

private theorem takeRound_makes (hpage : ShowsWell page) (s : Journal) :
    ∃ made o, Round page settings detection s.calls made (o.map Prod.snd) ∧
      Makes page s (takeRound settings detection) made o := by
  have hcall := @Makes.call page s .census (by simp) _ rfl
  cases hcensus : page s.calls .census with
  | error message =>
    rw [hcensus] at hcall
    exact ⟨[.census], .error (.page message), .censusFailed hcensus, hcall.bind_error⟩
  | ok census =>
    rw [hcensus] at hcall
    cases hactive : activeSlide census with
    | error e =>
      have hround : Makes page s (takeRound settings detection) ([.census] ++ []) (.error e) := by
        refine hcall.bind ?_
        rw [hactive]
        exact .quiet rfl rfl
      exact ⟨[.census], .error e, .unresolved hcensus hactive, hround⟩
    | ok active =>
      obtain ⟨slide, found⟩ := active
      have hcalls : ((Activity.call .census).run page s).2.calls = s.calls ++ [.census] :=
        congrArg Moment.calls hcall.moment
      have hround : Makes page s (takeRound settings detection)
          ([.census] ++ [.snapshot (requestFor settings detection slide)])
          (((page (s.calls ++ [.census])
            (.snapshot (requestFor settings detection slide))).mapError Failure.page).map
              (slide, ·)) := by
        refine hcall.bind ?_
        rw [hactive, ← hcalls]
        refine .ofOutcome_bind (.tell_bind found ?_)
        exact (takeSnapshot_makes hpage _ _).bind_return (slide, ·)
      cases hsnapshot : page (s.calls ++ [.census])
          (.snapshot (requestFor settings detection slide)) with
      | error message =>
        rw [hsnapshot] at hround
        exact ⟨_, _, .snapshotFailed hcensus hactive hsnapshot, hround⟩
      | ok snapshot =>
        rw [hsnapshot] at hround
        exact ⟨_, _, .taken hcensus hactive hsnapshot, hround⟩

private theorem activeSnapshot_makes (hpage : ShowsWell page) (n : Nat) (s : Journal) :
    ∃ taken o, Rounds page settings detection n s.calls taken o ∧
      Makes page s (activeSnapshot settings detection n) taken.flatten o := by
  induction n generalizing s with
  | zero => exact ⟨[], _, .spent, .quiet rfl rfl⟩
  | succ n ih =>
    rw [activeSnapshot_succ]
    obtain ⟨made, o, hround, hmade⟩ := @takeRound_makes page settings detection hpage s
    cases o with
    | error e =>
      refine ⟨[made], .error e, .last hround nofun, ?_⟩
      rw [List.flatten_singleton]
      exact hmade.bind_error
    | ok taken =>
      obtain ⟨slide, snapshot⟩ := taken
      by_cases hnull : snapshot = .null
      · subst hnull
        have hcalls : ((takeRound settings detection).run page s).2.calls = s.calls ++ made :=
          (congrArg Moment.calls hmade.moment).trans (Moment.after_calls made)
        obtain ⟨later, o, hlater, hmade'⟩ := ih
          { ((takeRound settings detection).run page s).2 with
            log := ((takeRound settings detection).run page s).2.log ++ [.note 2 ("Slide page " ++
              slide.asText ++ " disappeared before inspection, retaking census")] }
        rw [hcalls] at hlater
        exact ⟨made :: later, o, .next hround hlater, hmade.bind (.tell_bind _ hmade')⟩
      · refine ⟨[made], .ok snapshot, .last hround fun h => hnull (Except.ok.inj h), ?_⟩
        rw [List.flatten_singleton, ← List.append_nil made]
        refine hmade.bind ?_
        split
        · next h => exact absurd h hnull
        · exact .quiet rfl rfl

private theorem Rounds.answered {n : Nat} {before : List Call} {taken : List (List Call)}
    {snapshot : Json} (h : Rounds page settings detection n before taken (.ok snapshot)) :
    snapshot ≠ .null ∧ ∃ calls request, page calls (.snapshot request) = .ok snapshot := by
  generalize ho : (Except.ok snapshot : Outcome Json) = o at h
  induction h with
  | spent => cases ho
  | last hround hne =>
    subst ho
    refine ⟨fun hnull => hne (congrArg Except.ok hnull), ?_⟩
    cases hround with
    | taken _ _ hsnapshot => exact ⟨_, _, hsnapshot⟩
  | next _ _ ih => exact ih ho

/-- A detection comes to the issues of the snapshot that its rounds give. -/
private theorem detect_makes (hpage : ShowsWell page) {q : Number.Quantity}
    (hthreshold : detection.threshold = .number q) (s : Journal) :
    ∃ taken o, Rounds page settings detection rounds s.calls taken o ∧
      (∀ snapshot, o = .ok snapshot → ∃ all, detection.complete.issues snapshot = .ok all) ∧
      Makes page s (detect settings detection) taken.flatten (o.bind detection.issues) := by
  obtain ⟨taken, o, hrounds, hmade⟩ :=
    @activeSnapshot_makes page settings detection hpage rounds s
  refine ⟨taken, o, hrounds, ?_⟩
  cases o with
  | error e => exact ⟨nofun, hmade.bind_error⟩
  | ok snapshot =>
    obtain ⟨hsome, calls, request, hanswer⟩ := hrounds.answered
    cases hpage calls request snapshot hanswer with
    | null => exact absurd rfl hsome
    | @record fields hframe helements _ =>
      obtain ⟨all, hall, -⟩ := Outcome.Yields.exists_ok <|
        @Detection.yields_issues _ detection.complete q hthreshold fields hframe helements
      obtain ⟨size, hsize, -⟩ : ∃ size, (do
          (← Json.fieldOr (.list []) (.record fields) "elements").size) = Except.ok size ∧
            True := by
        apply Outcome.Yields.exists_ok
        refine (Json.yields_fieldOr .nil helements).bind fun elements hlist => ?_
        cases hlist
        exact trivial
      refine ⟨fun _ hsnapshot => ⟨all, Except.ok.inj hsnapshot ▸ hall⟩, ?_⟩
      have hissues := Detection.issues_of_complete hall
      rw [← List.append_nil taken.flatten]
      refine hmade.bind ?_
      change Makes page _ _ [] (detection.issues (.record fields))
      rw [hissues, hsize]
      exact .ofOutcome_bind (.ofOutcome_bind (.tell_bind _ (.quiet rfl rfl)))

/-! ### What comes of two rounds -/

section Facts

variable {before made made' first : List Call} {o o' : Outcome Json}

private theorem Round.unique (h : Round page settings detection before made o)
    (h' : Round page settings detection before made' o') : made = made' ∧ o = o' := by
  cases h with
  | censusFailed hcensus => cases h' <;> simp_all
  | unresolved hcensus hactive => cases h' <;> simp_all
  | snapshotFailed hcensus hactive hsnapshot => cases h' <;> simp_all
  | taken hcensus hactive hsnapshot => cases h' <;> simp_all

private theorem Round.exists_iff (h : Round page settings detection before made o) :
    (∃ made', Round page settings detection before made' o') ↔ o = o' :=
  ⟨fun ⟨_, h'⟩ => (h.unique h').2, fun heq => ⟨made, heq ▸ h⟩⟩

private theorem tellsNone_iff_of_census {census : Json} (h : page before .census = .ok census) :
    TellsNone page before ↔ ∃ address, activeSlide census = .error (.noActiveSlide address) := by
  constructor
  · rintro ⟨census', address, hanswer, hnone⟩
    cases h.symm.trans hanswer
    exact ⟨address, hnone⟩
  · rintro ⟨address, hnone⟩
    exact ⟨census, address, h, hnone⟩

/-- A round itself fails by a call or by its census only. -/
private theorem Round.tellsNone_iff (h : Round page settings detection before made o) :
    TellsNone page before ↔ ∃ e, o = .error e ∧ NotFound e := by
  cases h with
  | censusFailed hcensus =>
    refine iff_of_false ?_ ?_
    · rintro ⟨census, address, hanswer, _⟩
      cases hcensus.symm.trans hanswer
    · rintro ⟨e, heq, hnot⟩
      cases heq
      cases hnot
  | unresolved hcensus hactive =>
    rw [tellsNone_iff_of_census hcensus, hactive]
    constructor
    · rintro ⟨address, hnone⟩
      exact ⟨_, rfl, Except.error.inj hnone ▸ .noActiveSlide address⟩
    · rintro ⟨e, heq, hnot⟩
      cases heq
      cases hnot with
      | noActiveSlide address => exact ⟨address, rfl⟩
      | slideVanished => cases onlyData_activeSlide _ _ hactive
  | snapshotFailed hcensus hactive _ =>
    rw [tellsNone_iff_of_census hcensus, hactive]
    refine iff_of_false nofun ?_
    rintro ⟨e, heq, hnot⟩
    cases heq
    cases hnot
  | taken hcensus hactive _ =>
    rw [tellsNone_iff_of_census hcensus, hactive]
    exact iff_of_false nofun nofun

private theorem exists_starts_iff_of_ne (h : Round page settings detection before made o)
    (hne : o ≠ .ok .null) {P : List Call → Prop} :
    (∃ calls, Starts page settings detection before calls ∧ P calls) ↔ P before := by
  constructor
  · rintro ⟨calls, hstarts, hP⟩
    cases hstarts with
    | first => exact hP
    | second hnull => exact absurd (h.unique hnull).2 hne
  · exact fun hP => ⟨before, .first, hP⟩

private theorem exists_starts_iff_of_null
    (h : Round page settings detection before first (.ok .null)) {P : List Call → Prop} :
    (∃ calls, Starts page settings detection before calls ∧ P calls) ↔
      P before ∨ P (before ++ first) := by
  constructor
  · rintro ⟨calls, hstarts, hP⟩
    cases hstarts with
    | first => exact .inl hP
    | second hnull => exact .inr ((h.unique hnull).1 ▸ hP)
  · rintro (hP | hP)
    · exact ⟨before, .first, hP⟩
    · exact ⟨before ++ first, .second h, hP⟩

end Facts

/-- What a detection does after some calls: its rounds, of which there are one or two, and what they
come to. -/
structure Detects (page : Page) (settings : Settings) (detection : Detection) (before : List Call)
    (taken : List (List Call)) (o : Outcome (List Issue)) : Prop where
  rounds : ∃ last, Rounds page settings detection rounds before taken last
  once_or_twice : taken.length = 1 ∨ taken.length = 2
  twice_iff : taken.length = 2 ↔ ∃ first, Round page settings detection before first (.ok .null)
  /-- No active slide is found exactly where a census tells none, or both snapshots are null. -/
  notFound_iff : (∃ e, o = .error e ∧ NotFound e) ↔
    (∃ calls, Starts page settings detection before calls ∧ TellsNone page calls) ∨
      ∃ first second, Round page settings detection before first (.ok .null) ∧
        Round page settings detection (before ++ first) second (.ok .null)
  page_iff : ∀ message, o = .error (.page message) ↔
    ∃ calls, Starts page settings detection before calls ∧
      ∃ made, Round page settings detection calls made (.error (.page message))
  /-- The issues are those of the first snapshot that is not null: of all issues on it, the ones of
  the classes that are looked for. -/
  issues_iff : ∀ issues, o = .ok issues ↔ ∃ snapshot all, snapshot ≠ .null ∧
    (∃ calls, Starts page settings detection before calls ∧
      ∃ made, Round page settings detection calls made (.ok snapshot)) ∧
    detection.complete.issues snapshot = .ok all ∧
      issues = all.filter fun i => detection.looksFor i.kind

section Outcomes

variable {before : List Call} {taken : List (List Call)} {o : Outcome Json}

private def FindsAll (detection : Detection) (o : Outcome Json) : Prop :=
  ∀ snapshot, o = .ok snapshot → ∃ all, detection.complete.issues snapshot = .ok all

private theorem FindsAll.bind_eq_error_iff (h : FindsAll detection o) {e : Failure} :
    o.bind detection.issues = .error e ↔ o = .error e := by
  cases o with
  | error e' => exact ⟨fun h => congrArg Except.error (Except.error.inj h), fun h => by rw [h]; rfl⟩
  | ok snapshot =>
    obtain ⟨all, hall⟩ := h snapshot rfl
    change detection.issues snapshot = .error e ↔ _
    rw [Detection.issues_of_complete hall]
    exact ⟨nofun, nofun⟩

private theorem FindsAll.bind_eq_ok_iff (h : FindsAll detection o) {issues : List Issue} :
    o.bind detection.issues = .ok issues ↔ ∃ snapshot all, o = .ok snapshot ∧
      detection.complete.issues snapshot = .ok all ∧
        issues = all.filter fun i => detection.looksFor i.kind := by
  rw [Outcome.bind_eq_ok_iff]
  constructor
  · rintro ⟨snapshot, rfl, hissues⟩
    obtain ⟨all, hall⟩ := h snapshot rfl
    rw [Detection.issues_of_complete hall] at hissues
    exact ⟨snapshot, all, rfl, hall, (Except.ok.inj hissues).symm⟩
  · rintro ⟨snapshot, all, rfl, hall, rfl⟩
    exact ⟨snapshot, rfl, Detection.issues_of_complete hall⟩

variable (h : Rounds page settings detection rounds before taken o)

include h

private theorem Rounds.length_eq_two_iff :
    (taken.length = 1 ∨ taken.length = 2) ∧
      (taken.length = 2 ↔ ∃ first, Round page settings detection before first (.ok .null)) := by
  cases h with
  | last hround hne =>
    refine ⟨.inl rfl, ?_⟩
    rw [hround.exists_iff]
    exact iff_of_false (by simp) hne
  | @next _ _ first _ _ hfirst hlater =>
    cases hlater with
    | last _ _ => exact ⟨.inr rfl, iff_of_true rfl ⟨first, hfirst⟩⟩
    | next _ hspent =>
      cases hspent
      exact ⟨.inr rfl, iff_of_true rfl ⟨first, hfirst⟩⟩

private theorem Rounds.notFound_iff :
    (∃ e, o = .error e ∧ NotFound e) ↔
      (∃ calls, Starts page settings detection before calls ∧ TellsNone page calls) ∨
        ∃ first second, Round page settings detection before first (.ok .null) ∧
          Round page settings detection (before ++ first) second (.ok .null) := by
  cases h with
  | last hround hne =>
    rw [exists_starts_iff_of_ne hround hne, hround.tellsNone_iff]
    refine (or_iff_left ?_).symm
    rintro ⟨first, _, hfirst, _⟩
    exact hne (hround.unique hfirst).2
  | @next _ _ first _ _ hfirst hlater =>
    have hnone : ¬∃ e, (Except.ok .null : Outcome Json) = .error e ∧ NotFound e := by simp
    rw [exists_starts_iff_of_null hfirst, hfirst.tellsNone_iff, or_iff_right hnone]
    cases hlater with
    | last hsecond hne =>
      rw [hsecond.tellsNone_iff]
      refine (or_iff_left ?_).symm
      rintro ⟨first', second, hfirst', hsecond'⟩
      obtain ⟨rfl, -⟩ := hfirst.unique hfirst'
      exact hne (hsecond.unique hsecond').2
    | @next _ _ second _ _ hsecond hspent =>
      cases hspent
      exact iff_of_true ⟨_, rfl, .slideVanished⟩ (.inr ⟨first, second, hfirst, hsecond⟩)

private theorem Rounds.page_iff {message : String} :
    o = .error (.page message) ↔ ∃ calls, Starts page settings detection before calls ∧
      ∃ made, Round page settings detection calls made (.error (.page message)) := by
  cases h with
  | last hround hne => rw [exists_starts_iff_of_ne hround hne, hround.exists_iff]
  | next hfirst hlater =>
    rw [exists_starts_iff_of_null hfirst, hfirst.exists_iff, or_iff_right nofun]
    cases hlater with
    | last hsecond _ => rw [hsecond.exists_iff]
    | next hsecond hspent =>
      cases hspent
      rw [hsecond.exists_iff]
      exact iff_of_false nofun nofun

private theorem Rounds.ok_iff {snapshot : Json} :
    o = .ok snapshot ↔ snapshot ≠ .null ∧ ∃ calls, Starts page settings detection before calls ∧
      ∃ made, Round page settings detection calls made (.ok snapshot) := by
  cases h with
  | last hround hne =>
    rw [exists_starts_iff_of_ne hround hne, hround.exists_iff]
    refine (and_iff_right_of_imp ?_).symm
    rintro rfl rfl
    exact hne rfl
  | next hfirst hlater =>
    rw [exists_starts_iff_of_null hfirst, hfirst.exists_iff]
    have hsame : snapshot ≠ .null → ¬(Except.ok .null : Outcome Json) = .ok snapshot := by
      rintro hsome heq
      exact hsome (Except.ok.inj heq).symm
    cases hlater with
    | last hsecond hne =>
      rw [hsecond.exists_iff]
      constructor
      · rintro rfl
        exact ⟨fun hnull => hne (congrArg Except.ok hnull), .inr rfl⟩
      · rintro ⟨hsome, heq⟩
        exact heq.resolve_left (hsame hsome)
    | next hsecond hspent =>
      cases hspent
      rw [hsecond.exists_iff, or_self]
      exact iff_of_false nofun fun ⟨hsome, heq⟩ => hsame hsome heq

private theorem Rounds.detects (hall : FindsAll detection o) :
    Detects page settings detection before taken (o.bind detection.issues) := by
  refine ⟨⟨o, h⟩, h.length_eq_two_iff.1, h.length_eq_two_iff.2, ?_, fun message => ?_,
    fun issues => ?_⟩
  · simp only [hall.bind_eq_error_iff]
    exact h.notFound_iff
  · rw [hall.bind_eq_error_iff]
    exact h.page_iff
  · simp only [hall.bind_eq_ok_iff, h.ok_iff, and_assoc]

end Outcomes

/-! ### One detection after the other -/

/-- A number of detections, with what each of them comes to. One that fails is followed by the next
one all the same. -/
def detections (settings : Settings) (detection : Detection) :
    Nat → Activity (List (Outcome (List Issue)))
  | 0 => return []
  | n + 1 => do
    let o ← observe (detect settings detection)
    return o :: (← detections settings detection n)

inductive Detections (page : Page) (settings : Settings) (detection : Detection) :
    List Call → List (List (List Call) × Outcome (List Issue)) → Prop where
  | nil {before : List Call} : Detections page settings detection before []
  | cons {before : List Call} {taken : List (List Call)} {o : Outcome (List Issue)}
      {later : List (List (List Call) × Outcome (List Issue))} :
      Detects page settings detection before taken o →
      Detections page settings detection (before ++ taken.flatten) later →
      Detections page settings detection before ((taken, o) :: later)

/-- However often issues are detected on a page, each time there are one or two rounds, told by the
answers of the page. -/
theorem detections_inRounds (hpage : ShowsWell page) {q : Number.Quantity}
    (hthreshold : detection.threshold = .number q) (n : Nat) (s : Journal) :
    ∃ course, course.length = n ∧ Detections page settings detection s.calls course ∧
      Makes page s (detections settings detection n) (course.flatMap fun d => d.1.flatten)
        (.ok (course.map Prod.snd)) := by
  induction n generalizing s with
  | zero => exact ⟨[], rfl, .nil, .quiet rfl rfl⟩
  | succ n ih =>
    obtain ⟨taken, o, hrounds, hall, hmade⟩ :=
      @detect_makes page settings detection hpage q hthreshold s
    have hcalls : ((observe (detect settings detection)).run page s).2.calls =
        s.calls ++ taken.flatten :=
      (congrArg Moment.calls hmade.observe.moment).trans (Moment.after_calls _)
    obtain ⟨course, hlength, hcourse, hlater⟩ :=
      ih ((observe (detect settings detection)).run page s).2
    rw [hcalls] at hcourse
    refine ⟨(taken, o.bind detection.issues) :: course, by rw [List.length_cons, hlength],
      .cons (hrounds.detects hall) hcourse, ?_⟩
    exact hmade.observe.bind (hlater.bind_return (o.bind detection.issues :: ·))

/-- A page that is drawn once more while it is inspected: its slide is gone before the first
snapshot. -/
def redrawn : Page := fun calls c =>
  match c with
  | .census => .ok (.record [("slides", .list [.record [("index", .ofInt 4)]])])
  | .snapshot _ => .ok (if calls.length = 1 then .null else lone)
  | _ => .ok .null

private theorem showsWell_redrawn : ShowsWell redrawn := by
  intro calls request snapshot hanswer
  simp only [redrawn, Except.ok.injEq] at hanswer
  split at hanswer
  · exact hanswer ▸ .null
  · exact hanswer ▸ wellFormed_lone

/-- The first detection takes two rounds, and the second one takes one. Both find the element that
runs past its slide. -/
theorem detections_inRounds_of_redrawn :
    let detection : Detection := { threshold := .ofInt 5, text := false, scrollbar := false }
    let round : List Call := [.census, .snapshot (requestFor {} detection (.ofInt 4))]
    ShowsWell redrawn ∧ detection.threshold = .number (.int 5) ∧
      ∃ taken taken' issues, Detections redrawn {} detection []
          [(taken, .ok issues), (taken', .ok issues)] ∧
        taken.length = 2 ∧ taken.flatten ++ taken'.flatten = round ++ round ++ round ∧
        issues.length = 1 := by
  intro detection round
  obtain ⟨course, hlength, hcourse, hmade⟩ := @detections_inRounds redrawn {} detection
    showsWell_redrawn (.int 5) rfl 2 {}
  obtain ⟨⟨taken, o⟩, ⟨taken', o'⟩, rfl⟩ := List.length_eq_two.mp hlength
  obtain ⟨issues, hissues, hone⟩ : ∃ issues, ((detections {} detection 2).run redrawn {}).1 =
      .ok [.ok issues, .ok issues] ∧ issues.length = 1 := ⟨_, rfl, rfl⟩
  have houtcomes := hmade.outcome.symm.trans hissues
  simp only [List.map_cons, List.map_nil, Except.ok.injEq, List.cons.injEq, and_true] at houtcomes
  obtain ⟨rfl, rfl⟩ := houtcomes
  have hcalls : round ++ round ++ round = [] ++ (taken.flatten ++ (taken'.flatten ++ [])) :=
    (congrArg Moment.calls hmade.moment).trans (Moment.after_calls _)
  rw [List.nil_append, List.append_nil] at hcalls
  refine ⟨showsWell_redrawn, rfl, taken, taken', issues, hcourse, ?_, ?_, hone⟩
  · cases hcourse with
    | cons hfirst _ => exact hfirst.twice_iff.mpr ⟨round, .taken rfl rfl rfl⟩
  · exact hcalls.symm

end SlideOverflow.Session
