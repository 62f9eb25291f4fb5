import SlideOverflow.Proofs.Check.Chunks
import SlideOverflow.Proofs.Session.Locality

/-! Checks by several workers. Each of them has a session of its own, so on a presentation whose
slides are rendered apart from each other a check comes to what its slides come to one by one,
whatever the number of workers and the order in which their calls arrive. -/
namespace SlideOverflow.Check
open Session Inspection Attribution

variable {r : Rendering} {settings : Settings} {state : CheckState}

/-! ### Arrival -/

/-- The calls of several sessions in the order in which they arrive, each with the number of its
session. -/
abbrev Traffic := List (Nat × Call)

def Traffic.of (t : Traffic) (k : Nat) : List Call :=
  (t.filter fun p => p.1 == k).map Prod.snd

/-- An order in which workers run: what has arrived when a session, after some calls of its own,
makes the next one. -/
structure Arrival where
  before : Nat → List Call → Traffic
  own : ∀ k calls, (before k calls).of k = calls

/-- The traffic in front of the next call of a session: the given one as far as it is needed, with
the given calls in the places of that session. -/
def Traffic.upTo (k : Nat) : List Call → Traffic → Traffic
  | [], t => t.takeWhile fun p => p.1 != k
  | c :: cs, t =>
    (t.takeWhile fun p => p.1 != k) ++
      (k, c) :: upTo k cs ((t.dropWhile fun p => p.1 != k).tail)

private theorem of_others (k : Nat) (t : Traffic) :
    Traffic.of (t.takeWhile fun p => p.1 != k) k = [] := by
  rw [Traffic.of, List.map_eq_nil_iff, List.filter_eq_nil_iff]
  intro p hp
  have hne := List.all_takeWhile (p := fun p : Nat × Call => p.1 != k) (l := t)
  simpa using List.all_eq_true.mp hne p hp

private theorem of_append (k : Nat) (t u : Traffic) :
    Traffic.of (t ++ u) k = Traffic.of t k ++ Traffic.of u k := by
  rw [Traffic.of, List.filter_append, List.map_append]
  rfl

private theorem of_cons_own (k : Nat) (c : Call) (t : Traffic) :
    Traffic.of ((k, c) :: t) k = c :: Traffic.of t k := by
  simp [Traffic.of]

private theorem Traffic.upTo_of (k : Nat) (calls : List Call) (t : Traffic) :
    (upTo k calls t).of k = calls := by
  induction calls generalizing t with
  | nil => exact of_others k t
  | cons c cs ih => rw [upTo, of_append, of_others, of_cons_own, ih, List.nil_append]

def Arrival.inOrder (t : Traffic) : Arrival where
  before := fun k calls => t.upTo k calls
  own := fun k calls => t.upTo_of k calls

/-- How a presentation answers a session after the calls of all sessions: each session has a page of
its own, which its own calls alone have brought to where it is. -/
def serve (r : Rendering) (t : Traffic) (k : Nat) (c : Call) : Except String Json :=
  r.page (t.of k) c

def hostOf (r : Rendering) (a : Arrival) : Host := fun k calls c => serve r (a.before k calls) k c

private theorem hostOf_eq (r : Rendering) (a : Arrival) (k : Nat) : hostOf r a k = r.page := by
  funext calls c
  rw [hostOf, serve, a.own]

/-! ### A slide of a check -/

section Slides

variable {n total : Int}

private theorem stays_attributeIssues (source : Option Source) (slide : Int) (issues : List Issue) :
    Stays r n total (attributeIssues source slide issues) := by
  cases source with
  | none => exact Stays.pure issues
  | some s => exact (Stays.forM Stays.tell _).bind fun _ => Stays.ofOutcome _

private theorem enters_checkSlide (htotal : total ≠ 0) :
    Enters r n total (checkSlide settings state n) := fun s t h =>
  (enters_navigate _ htotal s t h).bind fun _ => (stays_detect _ _).bind fun issues =>
    (stays_attributeIssues _ n issues).bind fun _ => Stays.pure _

private theorem enters_checkOrSkip (htotal : total ≠ 0) :
    Enters r n total (checkOrSkip settings state n) := by
  refine Enters.tell_bind _ fun s t h => ?_
  refine (enters_checkSlide htotal s t h).observe.bind fun outcome => ?_
  rcases outcome with e | result
  · cases e with
    | page message => exact (Stays.tell _).bind fun _ => Stays.pure none
    | unreachable n message => exact (Stays.tell _).bind fun _ => Stays.pure none
    | _ => exact Stays.throw _
  · dsimp only
    split
    · exact (Stays.tell _).bind fun _ => Stays.pure (some result)
    · exact Stays.pure (some result)

end Slides

/-! ### Chunks -/

def ChunkResult.ofSlide (slide : Int) : Option SlideResult → ChunkResult
  | some result => ⟨[result], []⟩
  | none => ⟨[], [slide]⟩

def ChunkResult.concat (parts : List ChunkResult) : ChunkResult :=
  ⟨parts.flatMap (·.results), parts.flatMap (·.skipped)⟩

private theorem ChunkResult.concat_singleton (c : ChunkResult) : concat [c] = c := by
  rw [concat, List.flatMap_singleton, List.flatMap_singleton]

theorem ChunkResult.concat_cons (c : ChunkResult) (ds : List ChunkResult) :
    concat (c :: ds) = concat [c, concat ds] := by
  simp only [concat, List.flatMap_cons, List.flatMap_nil, List.append_nil]

private theorem ChunkResult.concat_append (cs ds : List ChunkResult) :
    concat (cs ++ ds) = concat [concat cs, concat ds] := by
  simp only [concat, List.flatMap_append, List.flatMap_cons, List.flatMap_nil, List.append_nil]

private def aloneOutcome (r : Rendering) (settings : Settings) (state : CheckState) (n : Int)
    (t : Journal) : Outcome ChunkResult :=
  ((checkOrSkip settings state n).run (r.answer n) t).1.map (ChunkResult.ofSlide n)

/-- Slides that are checked one after the other come to what each of them comes to alone. -/
private theorem checkSlides_outcome {total : Int} (htotal : total ≠ 0) {slides : List Int}
    (hdistinct : slides.Nodup) {s : Journal} {alone : Int → Journal}
    (h : ∀ n ∈ slides, Abreast n total s (alone n)) :
    ((checkSlides settings state slides).run r.page s).1 =
      (slides.mapM fun n => aloneOutcome r settings state n (alone n)).map ChunkResult.concat := by
  induction slides generalizing s with
  | nil => rfl
  | cons n slides ih =>
    obtain ⟨hnew, hdistinct⟩ := List.nodup_cons.mp hdistinct
    obtain ⟨ho, hfacing, hothers⟩ :=
      enters_checkOrSkip htotal s (alone n) (h n List.mem_cons_self)
    rw [checkSlides, Activity.run_bind, List.mapM_cons, aloneOutcome, ← ho]
    rcases hrun : (checkOrSkip settings state n).run r.page s with ⟨outcome, s'⟩
    rw [hrun] at hfacing hothers
    cases outcome with
    | error e => rfl
    | ok result =>
      -- The slides still to come have seen nothing of this one, so each stays abreast of its own
      -- session.
      have hrest : ∀ m ∈ slides, Abreast m total s' (alone m) := by
        intro m hm
        have hne : m ≠ n := fun heq => hnew (heq ▸ hm)
        obtain ⟨hcalls, _, hknown⟩ := h m (.tail n hm)
        exact ⟨hcalls.trans (hothers m hne).symm, hfacing.known, hknown⟩
      have hih := ih hdistinct hrest
      simp only [Activity.run_bind]
      rcases hslides : (checkSlides settings state slides).run r.page s' with ⟨rest, s''⟩
      rw [hslides] at hih
      generalize (slides.mapM fun n => aloneOutcome r settings state n (alone n)) = outcomes
        at hih ⊢
      rcases outcomes with e | outcomes
      · subst hih
        rfl
      · subst hih
        cases result <;> rfl

/-! ### Sessions -/

/-- Opening a session fails in the same way whatever is done in it, or else it comes to what is done
from some journal on. -/
private def Opens (page : Page) (wrap : Activity ChunkResult → Activity ChunkResult) (s : Journal) :
    Prop :=
  (∃ e, ∀ x, ((wrap x).run page s).1 = .error e) ∨
    ∃ s', ∀ x, ((wrap x).run page s).1 = (x.run page s').1

section Opening

variable {page : Page} {wrap : Activity ChunkResult → Activity ChunkResult} {s : Journal}

private theorem Opens.after {α : Type} (x : Activity α) (h : ∀ s, Opens page wrap s) :
    Opens page (fun y => x >>= fun _ => wrap y) s := by
  rcases hx : x.run page s with ⟨outcome, s'⟩
  have hrun (y : Activity ChunkResult) := Activity.run_bind page s x fun _ => wrap y
  simp only [hx] at hrun
  simp only [Opens, hrun]
  cases outcome with
  | error e => exact .inl ⟨e, fun _ => rfl⟩
  | ok _ => exact h s'

/-- A session is closed in the same way whatever was done in it. -/
private theorem Opens.closed (h : Opens r.page wrap s) :
    Opens r.page (fun x => Activity.ending (wrap x) (Activity.perform .close)) s := by
  have hclose (calls : List Call) : r.page calls .close = r.closing := rfl
  cases hclosing : r.closing with
  | error message =>
    refine .inl ⟨.page message, fun x => ?_⟩
    rw [Activity.run_ending, Activity.run_perform, hclose, hclosing]
    rfl
  | ok answer =>
    have hrun (x : Activity ChunkResult) :
        ((Activity.ending (wrap x) (Activity.perform .close)).run r.page s).1 =
          ((wrap x).run r.page s).1 := by
      rw [Activity.run_ending, Activity.run_perform, hclose, hclosing]
      rfl
    simp only [Opens, hrun]
    exact h

private theorem opens_within (opening : Opening) (address : String) (h : ∀ s, Opens r.page wrap s) :
    Opens r.page (fun x => within settings opening address (wrap x)) s := by
  cases opening with
  | provided => exact Opens.after _ h
  | browser =>
    cases hengine : engines.contains settings.browser with
    | false =>
      refine .inl ⟨.defect .noFields, fun x => ?_⟩
      simp only [within, hengine]
      rfl
    | true =>
      simp only [within, hengine]
      refine Opens.after (Activity.perform _) fun s => Opens.closed ?_
      exact Opens.after _ (fun s => Opens.after _ fun s => Opens.after _ h)

end Opening

def sessionOutcome (r : Rendering) (settings : Settings) (state : CheckState) (slides : List Int) :
    Outcome ChunkResult :=
  ((checkChunk settings state slides).run r.page {}).1

/-- The total is known as soon as a session is ready. -/
private theorem sessionOutcome_cases (r : Rendering) (settings : Settings)
    (htotal : state.totalSlides ≠ 0) :
    (∃ e, ∀ slides, sessionOutcome r settings state slides = .error e) ∨
      ∃ s : Journal, s.total = some state.totalSlides ∧ ∀ slides,
        sessionOutcome r settings state slides =
          ((checkSlides settings state slides).run r.page s).1 := by
  have hopens : Opens r.page (fun x => within settings state.opening state.address
      (awaitReady (state.pace settings) >>= fun _ => x)) {} :=
    opens_within _ _ fun s => Opens.after _ fun s => .inr ⟨s, fun _ => rfl⟩
  rcases hopens with ⟨e, he⟩ | ⟨s, hs⟩
  · exact .inl ⟨e, fun slides => he _⟩
  · refine .inr ⟨{ s with total := some state.totalSlides }, rfl, fun slides => ?_⟩
    rw [sessionOutcome, checkChunk, hs, Activity.run_bind, if_neg htotal]
    rfl

/-- Checking slides in one session comes to what checking each of them in a session of its own
does. -/
private theorem sessionOutcome_concat {slides : List Int} (htotal : state.totalSlides ≠ 0)
    (hne : slides ≠ []) (hdistinct : slides.Nodup) :
    sessionOutcome r settings state slides =
      (slides.mapM fun n => sessionOutcome r settings state [n]).map ChunkResult.concat := by
  rcases sessionOutcome_cases r settings htotal with ⟨e, he⟩ | ⟨s, hknown, hs⟩
  · obtain ⟨n, rest, rfl⟩ := List.exists_cons_of_ne_nil hne
    rw [List.mapM_cons, he, he]
    rfl
  · let alone (n : Int) : Journal := ⟨callsOn n s.calls, [], some state.totalSlides, []⟩
    have hconcat {slides : List Int} (hd : slides.Nodup) :
        sessionOutcome r settings state slides =
          (slides.mapM fun n => aloneOutcome r settings state n (alone n)).map
            ChunkResult.concat := by
      rw [hs]
      exact checkSlides_outcome htotal hd fun n _ => ⟨rfl, hknown, rfl⟩
    have hsingle (n : Int) :
        sessionOutcome r settings state [n] = aloneOutcome r settings state n (alone n) := by
      rw [hconcat (List.nodup_cons.mpr ⟨List.not_mem_nil, List.nodup_nil⟩), List.mapM_cons]
      cases aloneOutcome r settings state n (alone n) with
      | error e => rfl
      | ok c => exact congrArg _ c.concat_singleton
    simp only [hsingle]
    exact hconcat hdistinct

/-! ### All workers -/

/-- Chunks that each come to what their slides come to do so together. -/
private theorem mapM_concat {check : List Int → Outcome ChunkResult}
    {one : Int → Outcome ChunkResult}
    {parts : List (List Int)} (h : ∀ part ∈ parts, check part = (part.mapM one).map .concat) :
    (parts.mapM check).map ChunkResult.concat =
      (parts.flatten.mapM one).map ChunkResult.concat := by
  induction parts with
  | nil => rfl
  | cons part parts ih =>
    have hrest := ih fun p hp => h p (.tail part hp)
    rw [List.mapM_cons, List.flatten_cons, List.mapM_append, h part List.mem_cons_self]
    cases part.mapM one with
    | error e => rfl
    | ok cs =>
      generalize parts.mapM check = checked at hrest ⊢
      generalize parts.flatten.mapM one = ones at hrest ⊢
      rcases checked with e | ds <;> rcases ones with e' | es
      · cases hrest
        rfl
      -- One side fails and the other does not.
      · cases hrest
      · cases hrest
      · have heq : ChunkResult.concat ds = ChunkResult.concat es := Except.ok.inj hrest
        refine congrArg Except.ok ?_
        calc
          ChunkResult.concat (ChunkResult.concat cs :: ds)
            = ChunkResult.concat [ChunkResult.concat cs, ChunkResult.concat ds] :=
              ChunkResult.concat_cons _ ds
          _ = ChunkResult.concat (cs ++ es) := by rw [heq, ChunkResult.concat_append]

/-- Checking a chunk does not look at the number of workers, the range and what was found before. -/
theorem checkChunk_unread (workers : Int) (range : List Int) (results : List SlideResult)
    (skipped : List Int) (result : Option CheckResult) (chunk : List Int) :
    checkChunk settings { state with
      concurrency := workers
      pageRange := range
      results := results
      skipped := skipped
      result := result } chunk = checkChunk settings state chunk := by
  generalize hother : { state with
    concurrency := workers
    pageRange := range
    results := results
    skipped := skipped
    result := result } = other
  have hslides (slides : List Int) :
      checkSlides settings other slides = checkSlides settings state slides := by
    induction slides with
    | nil => rfl
    | cons n slides ih =>
      rw [checkSlides, checkSlides, ih, ← hother]
      rfl
  rw [checkChunk, checkChunk, hslides, ← hother]
  rfl

/-- Every session runs to its end, whatever the others come to. -/
private theorem run_sessions {host : Host} (hhost : ∀ k, host k = r.page) (parts : List (List Int))
    (h : History) :
    ∃ h', (parts.mapM fun part => Work.observeSession (checkChunk settings state part)).run host h =
      (.ok (parts.map (sessionOutcome r settings state)), h') := by
  induction parts generalizing h with
  | nil => exact ⟨h, rfl⟩
  | cons part parts ih =>
    let done := (checkChunk settings state part).run r.page {}
    obtain ⟨h', hrest⟩ := ih ⟨h.sessions ++ [done.2.calls], h.log ++ done.2.log⟩
    refine ⟨h', ?_⟩
    rw [List.mapM_cons, Work.run_bind, Work.run_observeSession, hhost]
    simp only [Work.run_bind]
    rw [hrest]
    rfl

def checkedPages (r : Rendering) (a : Arrival) (settings : Settings) (state : CheckState)
    (workers : Int) (h : History) : Outcome ChunkResult :=
  ((checkPages settings { state with concurrency := workers }).run (hostOf r a) h).1.map
    fun done => ⟨done.results, done.skipped⟩

private theorem checkedPages_parts (r : Rendering) (a : Arrival) (settings : Settings)
    (state : CheckState) (workers : Int) (h : History) :
    ∃ parts : List (List Int), parts.flatten = state.pageRange ∧ (∀ part ∈ parts, part ≠ []) ∧
      checkedPages r a settings state workers h =
        (parts.mapM (sessionOutcome r settings state)).map ChunkResult.concat := by
  obtain ⟨parts, told, hparts, hrun⟩ :=
    run_checkPages settings { state with concurrency := workers } (hostOf r a) h
  obtain ⟨size, hcut, -⟩ := chunks_spec hparts
  obtain ⟨h', hsessions⟩ := @run_sessions r settings state _ (hostOf_eq r a) parts
    { h with log := h.log ++ told }
  refine ⟨parts, hcut.flatten, hcut.filled, ?_⟩
  rw [checkedPages, hrun, checkParts]
  simp only [checkChunk_unread]
  rw [Work.run_bind_ok hsessions]
  simp only [Work.run_bind, run_ofOutcomes]
  cases parts.mapM (sessionOutcome r settings state) <;> rfl

structure CheckState.Prepared (state : CheckState) : Prop where
  counted : state.totalSlides ≠ 0
  ascending : state.pageRange.Pairwise (· < ·)

theorem countSlides_prepared {host : Host} {h : History} {counted : CheckState}
    (hc : ((countSlides settings state).run host h).1 = .ok counted) : counted.Prepared := by
  rw [countSlides, Work.run_bind] at hc
  split at hc
  · next total h₁ _ =>
    by_cases hzero : total = 0
    · rw [if_pos hzero] at hc
      cases hc
    · rw [if_neg hzero, Work.run_bind, Work.run_ofOutcome] at hc
      cases hrange : pageRange state.pages total with
      | error e =>
        rw [hrange] at hc
        cases hc
      | ok range =>
        rw [hrange] at hc
        cases hc
        exact ⟨hzero, pageRange_pairwise hrange⟩
  · cases hc

private theorem checkedPages_eq (prep : state.Prepared) (a : Arrival) (workers : Int)
    (h : History) :
    checkedPages r a settings state workers h =
      (state.pageRange.mapM fun n => sessionOutcome r settings state [n]).map
        ChunkResult.concat := by
  obtain ⟨parts, hflat, hfilled, heq⟩ := checkedPages_parts r a settings state workers h
  have hdistinct : parts.flatten.Nodup := by
    rw [hflat]
    exact prep.ascending.imp Int.ne_of_lt
  have hparts : ∀ part ∈ parts, sessionOutcome r settings state part =
      (part.mapM fun n => sessionOutcome r settings state [n]).map ChunkResult.concat :=
    fun part hp => sessionOutcome_concat prep.counted (hfilled part hp)
      (hdistinct.sublist (List.sublist_flatten_of_mem hp))
  rw [heq, mapM_concat hparts, hflat]

/-- Checking the page range comes to the same for every number of workers and every order in which
they run. It fails either as every session does, which is then never ready, or as the slide with the
lowest number that fails does. -/
theorem checkedPages_workers (prep : state.Prepared) (workers : Int) (a a' : Arrival)
    (h h' : History) :
    checkedPages r a settings state workers h = checkedPages r a' settings state 1 h' ∧
      ∀ e, checkedPages r a settings state workers h = .error e →
        (∀ slides, sessionOutcome r settings state slides = .error e) ∨
          (∃ done, sessionOutcome r settings state [] = .ok done) ∧
            ∃ n ∈ state.pageRange, sessionOutcome r settings state [n] = .error e ∧
              ∀ m ∈ state.pageRange, m < n →
                ∃ done, sessionOutcome r settings state [m] = .ok done := by
  rw [checkedPages_eq prep, checkedPages_eq prep]
  refine ⟨rfl, fun e he => ?_⟩
  have hstop : (state.pageRange.mapM fun n => sessionOutcome r settings state [n]) = .error e := by
    generalize (state.pageRange.mapM fun n => sessionOutcome r settings state [n]) = outcomes at he
    cases outcomes with
    | error e' =>
      cases he
      rfl
    | ok done => cases he
  obtain ⟨front, n, rest, hrange, hn, hfront⟩ := Outcome.exists_first_error hstop
  rcases sessionOutcome_cases r settings prep.counted with ⟨e', hall⟩ | ⟨s, _, hs⟩
  · have heq : e' = e := Except.error.inj ((hall [n]).symm.trans hn)
    exact .inl (heq ▸ hall)
  · refine .inr ⟨⟨⟨[], []⟩, hs []⟩, n, by rw [hrange]; simp, hn, fun m hm hlt => hfront m ?_⟩
    have hordered := prep.ascending
    rw [hrange] at hm hordered
    rcases List.mem_append.mp hm with hm | hm
    · exact hm
    · have hle : n ≤ m := by
        rcases List.mem_cons.mp hm with rfl | hm
        · exact Int.le_refl _
        · exact Int.le_of_lt
            (List.rel_of_pairwise_cons (List.pairwise_append.mp hordered).2.1 hm)
      omega

/-- A presentation whose second slide cannot be reached, and whose third one cannot be inspected. -/
def patchy : Rendering where
  answer
    | 2, _, .navigate _ => .error "No such route"
    | 3, _, .snapshot _ => .error "Target crashed"
    | _, _, .snapshot _ => .ok (.record [])
    | _, _, .census =>
      .ok (.record [("slides", .list [.record [("index", .ofInt 0), ("active", .bool true)]])])
    | _, _, _ => .ok .null
  closing := .ok .null

/-- Two workers on four slides, whose calls arrive by turns. -/
theorem checkedPages_workers_of_patchy :
    let state : CheckState :=
      { CheckState.ofSettings {} "http://localhost:3030" with
        totalSlides := 4
        pageRange := [1, 2, 3, 4] }
    let turns : Traffic := [(0, .navigate 1), (1, .navigate 3), (0, .census), (1, .census)]
    state.Prepared ∧
      checkedPages patchy (.inOrder turns) {} state 2 {} =
        checkedPages patchy (.inOrder []) {} state 1 {} ∧
      (checkedPages patchy (.inOrder turns) {} state 2 {}).toOption.map (·.skipped) =
        some [2, 3] := by
  intro state turns
  have prep : state.Prepared := ⟨by decide, by decide⟩
  have hsame : checkedPages patchy (.inOrder turns) {} state 2 {} =
      checkedPages patchy (.inOrder []) {} state 1 {} :=
    (checkedPages_workers prep 2 (.inOrder turns) (.inOrder []) {} {}).1
  exact ⟨prep, hsame, by decide +kernel⟩

end SlideOverflow.Check
