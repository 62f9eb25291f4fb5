import SlideOverflow.Proofs.Check.Workers
import SlideOverflow.Proofs.Session.Footprint

/-! No slide of a check is lost or counted twice. Each slide of the page range is visited once, in
one of the sessions, and its visit alone decides whether there is a result for it or it is skipped.
-/
namespace SlideOverflow.Check

open Session Inspection Attribution

variable {settings : Settings} {state : CheckState} {page : Page} {s s' : Journal} {n : Int}

/-! ### A visit of a slide -/

def Uninspected (settings : Settings) (state : CheckState) (page : Page) (s : Journal) (n : Int) :
    Prop :=
  ((navigate (state.pace settings) n).run page s).1 = .ok () ∧
    ∃ message, ((detect settings state.detection).run page
      ((navigate (state.pace settings) n).run page s).2).1 = .error (.page message)

private def Missed (settings : Settings) (state : CheckState) (page : Page) (s : Journal)
    (n : Int) :
    Prop :=
  Unreached (state.pace settings) page s n ∨ Uninspected settings state page s n

private theorem attributeIssues_ofData {source : Option Source} {issues : List Issue} {e : Failure}
    (h : ((attributeIssues source n issues).run page s).1 = .error e) : e.OfData := by
  cases source with
  | none => cases h
  | some source =>
    have hforM : ∀ (log : List LogEntry) (s : Journal),
        ∃ s', (log.forM Activity.tell).run page s = (.ok (), s') := by
      intro log
      induction log with
      | nil => exact fun s => ⟨s, rfl⟩
      | cons entry log ih => exact fun s => ih _
    obtain ⟨s', hs'⟩ := hforM (source.enrichAll n issues).2 s
    refine source.onlyData_enrichAll n issues e ?_
    rw [← h]
    simp only [attributeIssues, Activity.run_bind, hs', Activity.run_ofOutcome]

private theorem givesUp_checkSlide_iff :
    GivesUp page s (checkSlide settings state n) ↔ Missed settings state page s n := by
  -- Attribution fails on data only, and no slide is skipped for that.
  have hattribute (issues : List Issue) (s : Journal) :
      ¬GivesUp page s (attributeIssues state.source n issues) := by
    rintro ⟨e, he, hskips⟩
    have hdata := attributeIssues_ofData he
    cases hskips <;> cases hdata
  rw [checkSlide, givesUp_bind_iff, givesUp_navigate_iff]
  refine or_congr_right ⟨?_, fun ⟨hreached, message, h⟩ => ⟨(), hreached, ?_⟩⟩
  · rintro ⟨_, hreached, h⟩
    refine ⟨hreached, (givesUp_iff_page detect_other).mp ?_⟩
    rcases givesUp_bind_iff.mp h with h | ⟨issues, _, h⟩
    · exact h
    · rcases givesUp_bind_iff.mp h with h | ⟨enriched, _, h⟩
      · exact absurd h (hattribute issues _)
      · exact absurd h (not_givesUp_of_ok rfl)
  · exact givesUp_bind_iff.mpr (.inl (givesUp_of_page h))

private theorem checkSlide_page {r : SlideResult}
    (h : ((checkSlide settings state n).run page s).1 = .ok r) : r.page = n := by
  have hrun : (checkSlide settings state n).run page s =
      (.ok r, ((checkSlide settings state n).run page s).2) := Prod.ext h rfl
  obtain ⟨_, _, _, hrun⟩ := Activity.run_bind_eq_ok_iff.mp hrun
  obtain ⟨_, _, _, hrun⟩ := Activity.run_bind_eq_ok_iff.mp hrun
  obtain ⟨_, _, _, hrun⟩ := Activity.run_bind_eq_ok_iff.mp hrun
  cases hrun
  rfl

private theorem confined_checkSlide {known : Option Int → Prop} {places : Int → Prop}
    (hplace : places n) (hset : ∀ o, known o → o.getD 0 = 0 → ∀ total, known (some total)) :
    Confined known places (fun _ => True) (checkSlide settings state n) := by
  refine (confined_navigate _ hplace hset).bind fun _ => Confined.bind ?_ fun issues => ?_
  · exact (confined_detect _ _).imp (fun _ h => h) fun _ _ => trivial
  · refine Confined.bind ?_ fun _ => Confined.pure _
    cases state.source with
    | none => exact Confined.pure issues
    | some source =>
      exact (Confined.forM Confined.tell _).bind fun _ => Confined.ofOutcome fun _ _ => trivial

private theorem confined_checkSlide_known (htotal : state.totalSlides ≠ 0) :
    Confined (· = some state.totalSlides) (· = n) (fun _ => True)
      (checkSlide settings state n) := by
  refine confined_checkSlide rfl ?_
  rintro o rfl hzero
  exact absurd hzero htotal

/-- The journal of a session where a slide is visited: the session has not gone to it before, and
the calls of the visit are among its calls. -/
structure Visit (settings : Settings) (state : CheckState) (page : Page) (calls : List Call)
    (n : Int) (s : Journal) : Prop where
  known : s.total = some state.totalSlides
  first : .navigate n ∉ s.calls
  made : ((checkSlide settings state n).run page s).2.calls <+: calls

/-- A visit that does not end the check decides about its slide. -/
private theorem checkOrSkip_spec {o : Option SlideResult}
    (h : (checkOrSkip settings state n).run page s = (.ok o, s')) :
    ∃ t : Journal, t.calls = s.calls ∧ t.total = s.total ∧
      s'.calls = ((checkSlide settings state n).run page t).2.calls ∧
      s'.total = ((checkSlide settings state n).run page t).2.total ∧
      (∀ r, o = some r → r.page = n) ∧ (o = none ↔ Missed settings state page t n) := by
  obtain ⟨_, t, htold, h⟩ := Activity.run_bind_eq_ok_iff.mp h
  have ht : t.calls = s.calls ∧ t.total = s.total := by
    cases htold
    exact ⟨rfl, rfl⟩
  obtain ⟨outcome, t', hobserved, h⟩ := Activity.run_bind_eq_ok_iff.mp h
  refine ⟨t, ht.1, ht.2, ?_⟩
  rw [Activity.run_observe] at hobserved
  rw [← givesUp_checkSlide_iff, GivesUp]
  generalize hcheck : (checkSlide settings state n).run page t = checked at hobserved ⊢
  cases hobserved
  rcases checked with ⟨e | r, t'⟩
  · cases e with
    | page message =>
      cases h
      refine ⟨rfl, rfl, ?_, fun _ => ⟨_, rfl, .page message⟩, fun _ => rfl⟩
      intro r hr
      cases hr
    | unreachable m message =>
      cases h
      refine ⟨rfl, rfl, ?_, fun _ => ⟨_, rfl, .unreachable m message⟩, fun _ => rfl⟩
      intro r hr
      cases hr
    -- Any other failure ends the check.
    | _ => cases h
  · have hpage : r.page = n := checkSlide_page (congrArg Prod.fst hcheck)
    have hdone : o = some r ∧ s'.calls = t'.calls ∧ s'.total = t'.total := by
      dsimp only at h
      split at h <;> cases h <;> exact ⟨rfl, rfl, rfl⟩
    obtain ⟨rfl, hcalls, htotal⟩ := hdone
    refine ⟨hcalls, htotal, ?_, ?_, ?_⟩
    · intro r' hr
      cases hr
      exact hpage
    · intro hnone
      cases hnone
    · rintro ⟨e, he, _⟩
      cases he

/-! ### Slides one after the other -/

/-- A chunk accounts for slides: each of them is either checked or skipped, in their order, and
which of the two it is has been decided. -/
structure ChunkResult.Accounts (c : ChunkResult) (slides : List Int)
    (decided : Int → Prop → Prop) : Prop where
  checked : (c.results.map (·.page)).Sublist slides
  skipped : c.skipped.Sublist slides
  all : (c.results.map (·.page) ++ c.skipped).Perm slides
  decided : ∀ n ∈ slides, decided n (n ∈ c.skipped)

namespace ChunkResult.Accounts

variable {c d : ChunkResult} {slides slides' : List Int} {decided decided' : Int → Prop → Prop}

private theorem nil : Accounts ⟨[], []⟩ [] decided :=
  ⟨.slnil, .slnil, .nil, fun _ hn => absurd hn List.not_mem_nil⟩

private theorem imp (h : c.Accounts slides decided) (himp : ∀ n p, decided n p → decided' n p) :
    c.Accounts slides decided' :=
  ⟨h.checked, h.skipped, h.all, fun n hn => himp n _ (h.decided n hn)⟩

private theorem ofSlide {o : Option SlideResult} (hpage : ∀ r, o = some r → r.page = n)
    (hdecided : ∀ skipped, (skipped ↔ o = none) → decided n skipped) :
    (ofSlide n o).Accounts [n] decided := by
  have hskipped : n ∈ (ChunkResult.ofSlide n o).skipped ↔ o = none := by
    cases o <;> simp [ChunkResult.ofSlide]
  have hone : ∀ m ∈ [n], decided m (m ∈ (ChunkResult.ofSlide n o).skipped) := by
    intro m hm
    rw [List.mem_singleton.mp hm]
    exact hdecided _ hskipped
  cases o with
  | none => exact ⟨List.nil_sublist _, List.Sublist.refl _, List.Perm.refl _, hone⟩
  | some r =>
    have hr : [r.page] = [n] := by rw [hpage r rfl]
    refine ⟨?_, List.nil_sublist _, ?_, hone⟩
    · exact hr ▸ List.Sublist.refl _
    · exact hr ▸ List.Perm.refl _

private theorem append (hc : c.Accounts slides decided) (hd : d.Accounts slides' decided)
    (hdistinct : (slides ++ slides').Nodup) :
    (concat [c, d]).Accounts (slides ++ slides') decided := by
  have hconcat : concat [c, d] = ⟨c.results ++ d.results, c.skipped ++ d.skipped⟩ := by
    simp [concat]
  have hapart := (List.nodup_append.mp hdistinct).2.2
  rw [hconcat]
  constructor
  · rw [List.map_append]
    exact hc.checked.append hd.checked
  · exact hc.skipped.append hd.skipped
  · rw [List.map_append]
    calc
      (c.results.map (·.page) ++ d.results.map (·.page) ++ (c.skipped ++ d.skipped)).Perm
          (c.results.map (·.page) ++ c.skipped ++ (d.results.map (·.page) ++ d.skipped)) := by
        simp only [List.append_assoc]
        exact (List.perm_append_comm_assoc _ _ _).append_left _
      _ |>.Perm (slides ++ slides') := hc.all.append hd.all
  · -- The parts have no slide in common, so a slide is skipped in its own part or not at all.
    intro n hn
    rcases List.mem_append.mp hn with hn | hn
    · have hsame : (n ∈ c.skipped ++ d.skipped) = (n ∈ c.skipped) := by
        refine propext (List.mem_append.trans (or_iff_left fun hin => ?_))
        exact hapart n hn n (hd.skipped.subset hin) rfl
      rw [hsame]
      exact hc.decided n hn
    · have hsame : (n ∈ c.skipped ++ d.skipped) = (n ∈ d.skipped) := by
        refine propext (List.mem_append.trans (or_iff_right fun hin => ?_))
        exact hapart n (hc.skipped.subset hin) n hn rfl
      rw [hsame]
      exact hd.decided n hn

end ChunkResult.Accounts

/-- A slide is visited in a session, and skipped if and only if it is missed there. `calls` are
those of the session. -/
private def Decided (settings : Settings) (state : CheckState) (page : Page) (calls : List Call)
    (n : Int) (skipped : Prop) : Prop :=
  ∃ s, Visit settings state page calls n s ∧ (skipped ↔ Missed settings state page s n)

private theorem Decided.mono {calls calls' : List Call} {skipped : Prop}
    (h : Decided settings state page calls n skipped) (hcalls : calls <+: calls') :
    Decided settings state page calls' n skipped := by
  obtain ⟨s, ⟨hknown, hfirst, hmade⟩, hskipped⟩ := h
  exact ⟨s, ⟨hknown, hfirst, hmade.trans hcalls⟩, hskipped⟩

private theorem checkSlides_accounts (htotal : state.totalSlides ≠ 0) {slides : List Int}
    (hdistinct : slides.Nodup) (hknown : s.total = some state.totalSlides)
    (hfirst : ∀ n ∈ slides, .navigate n ∉ s.calls) {c : ChunkResult}
    (h : (checkSlides settings state slides).run page s = (.ok c, s')) :
    s.calls <+: s'.calls ∧ c.Accounts slides (Decided settings state page s'.calls) := by
  -- Induction on the slides, from any journal that has gone to none of them.
  induction slides generalizing s c with
  | nil =>
    cases h
    exact ⟨List.prefix_rfl, .nil⟩
  | cons n slides ih =>
    obtain ⟨hnew, hrest⟩ := List.nodup_cons.mp hdistinct
    obtain ⟨o, s₁, hvisit, h⟩ := Activity.run_bind_eq_ok_iff.mp h
    obtain ⟨rest, s₂, hslides, h⟩ := Activity.run_bind_eq_ok_iff.mp h
    have hc : ChunkResult.concat [ChunkResult.ofSlide n o, rest] = c ∧ s₂ = s' := by
      cases o <;> cases h <;> simp [ChunkResult.concat, ChunkResult.ofSlide]
    obtain ⟨rfl, rfl⟩ := hc
    obtain ⟨t, hcalls, htknown, hcalls₁, hknown₁, hpage, hmissed⟩ := checkOrSkip_spec hvisit
    have htotal_known : t.total = some state.totalSlides := htknown.trans hknown
    -- A visit goes to its own slide only, so the slides still to come are new to the session.
    obtain ⟨hstill, ⟨made, hmade, hplaces⟩, _⟩ :=
      confined_checkSlide_known htotal page t htotal_known
    have hgrown : s₁.calls = s.calls ++ made := by rw [hcalls₁, hmade, hcalls]
    have hnext : ∀ m ∈ slides, .navigate m ∉ s₁.calls := by
      intro m hm hin
      rw [hgrown] at hin
      rcases List.mem_append.mp hin with hin | hin
      · exact hfirst m (.tail n hm) hin
      · exact hnew (hplaces m hin ▸ hm)
    obtain ⟨hgrown', haccounts⟩ := ih hrest (hknown₁.trans hstill) hnext hslides
    have hone : (ChunkResult.ofSlide n o).Accounts [n] (Decided settings state page s₂.calls) := by
      refine .ofSlide hpage fun skipped hskipped => ⟨t, ⟨htotal_known, ?_, ?_⟩, ?_⟩
      · rw [hcalls]
        exact hfirst n List.mem_cons_self
      · rwa [← hcalls₁]
      · exact hskipped.trans hmissed
    refine ⟨?_, hone.append haccounts hdistinct⟩
    rw [hgrown] at hgrown'
    exact (List.prefix_append _ _).trans hgrown'

/-! ### Sessions -/

/-- A chunk that is checked in a session of its own accounts for its slides. -/
private theorem checkChunk_accounts (htotal : state.totalSlides ≠ 0) {chunk : List Int}
    (hdistinct : chunk.Nodup) {c : ChunkResult}
    (h : (checkChunk settings state chunk).run page {} = (.ok c, s')) :
    c.Accounts chunk (Decided settings state page s'.calls) := by
  obtain ⟨t, t', hnowhere, h, hcalls⟩ := within_spec (fun n => List.not_mem_nil) h
  obtain ⟨_, t₁, hready, h⟩ := Activity.run_bind_eq_ok_iff.mp h
  obtain ⟨_, t₂, hset, h⟩ := Activity.run_bind_eq_ok_iff.mp h
  have hready := awaitReady_goes_nowhere hnowhere hready
  rw [if_neg htotal] at hset
  have ht₂ : t₂.calls = t₁.calls ∧ t₂.total = some state.totalSlides := by
    cases hset
    exact ⟨rfl, rfl⟩
  have hfirst : ∀ n ∈ chunk, .navigate n ∉ t₂.calls := fun n _ => ht₂.1 ▸ hready n
  have haccounts := (checkSlides_accounts htotal hdistinct ht₂.2 hfirst h).2
  exact haccounts.imp fun n skipped hdecided => hdecided.mono hcalls

/-! ### All workers -/

private def DecidedIn (settings : Settings) (state : CheckState) (host : Host) (least : Nat)
    (sessions : List (List Call)) (n : Int) (skipped : Prop) : Prop :=
  ∃ k calls, least ≤ k ∧ sessions[k]? = some calls ∧
    Decided settings state (host k) calls n skipped

private theorem checkParts_accounts (htotal : state.totalSlides ≠ 0) {parts : List (List Int)}
    (hdistinct : parts.flatten.Nodup) {host : Host} {h h' : History}
    {outcomes : List (Outcome ChunkResult)} {done : List ChunkResult}
    (hrun : (parts.mapM fun part =>
      Work.observeSession (checkChunk settings state part)).run host h = (.ok outcomes, h'))
    (hdone : outcomes.mapM id = .ok done) :
    h.sessions <+: h'.sessions ∧ (ChunkResult.concat done).Accounts parts.flatten
      (DecidedIn settings state host h.sessions.length h'.sessions) := by
  -- Induction on the chunks. Each of them has the next session to itself, so what is said of the
  -- sessions so far stays true of the longer list.
  induction parts generalizing h outcomes done with
  | nil =>
    cases hrun
    cases hdone
    exact ⟨List.prefix_rfl, .nil⟩
  | cons part parts ih =>
    obtain ⟨hpart, hrest, _⟩ := List.nodup_append.mp hdistinct
    rw [List.mapM_cons] at hrun
    obtain ⟨o, h₁, hsession, hrun⟩ := Work.run_bind_eq_ok_iff.mp hrun
    obtain ⟨os, h₂, hparts, hrun⟩ := Work.run_bind_eq_ok_iff.mp hrun
    cases hrun
    rw [List.mapM_cons] at hdone
    obtain ⟨c, ho, hdone⟩ := Outcome.bind_eq_ok_iff.mp hdone
    obtain ⟨cs, hos, hdone⟩ := Outcome.bind_eq_ok_iff.mp hdone
    cases hdone
    obtain ⟨hgrown, haccounts⟩ := ih hrest hparts hos
    rw [Work.run_observeSession] at hsession
    obtain ⟨ho', rfl⟩ := Prod.mk.inj hsession
    have hrun : (checkChunk settings state part).run (host h.sessions.length) {} =
        (.ok c, ((checkChunk settings state part).run (host h.sessions.length) {}).2) :=
      Prod.ext ((Except.ok.inj ho').trans ho) rfl
    have hown := checkChunk_accounts htotal hpart hrun
    obtain ⟨later, hlater⟩ := hgrown
    refine ⟨⟨_ :: later, by rw [← hlater, List.append_assoc]; rfl⟩, ?_⟩
    rw [ChunkResult.concat_cons, List.flatten_cons]
    refine ChunkResult.Accounts.append (hown.imp fun n skipped hdecided => ?_)
      (haccounts.imp ?_) hdistinct
    · exact ⟨h.sessions.length, _, Nat.le_refl _, by rw [← hlater]; simp, hdecided⟩
    · rintro n skipped ⟨k, calls, hk, hcalls⟩
      rw [List.length_append] at hk
      exact ⟨k, calls, by omega, hcalls⟩

/-- The page range is accounted for by the results and the skipped slides that come of it. -/
private theorem checkPages_accounts (htotal : state.totalSlides ≠ 0)
    (hascending : state.pageRange.Pairwise (· < ·)) {host : Host} {h h' : History}
    {done : CheckState} (hrun : (checkPages settings state).run host h = (.ok done, h')) :
    ∃ c : ChunkResult, done = { state with results := c.results, skipped := c.skipped } ∧
      c.Accounts state.pageRange (DecidedIn settings state host h.sessions.length h'.sessions) := by
  obtain ⟨parts, told, hparts, hpages⟩ := run_checkPages settings state host h
  obtain ⟨size, hcut, -⟩ := chunks_spec hparts
  have hdistinct : parts.flatten.Nodup := by
    rw [hcut.flatten]
    exact hascending.imp Int.ne_of_lt
  rw [hpages] at hrun
  obtain ⟨outcomes, h₁, hsessions, hrun⟩ := Work.run_bind_eq_ok_iff.mp hrun
  obtain ⟨chunks, h₂, hoks, hreturn⟩ := Work.run_bind_eq_ok_iff.mp hrun
  have hids := run_ofOutcomes id outcomes host h₁
  rw [List.map_id, hoks] at hids
  obtain ⟨hchunks, hsame⟩ := Prod.mk.inj hids
  cases hreturn
  cases hsame
  have haccounts := (checkParts_accounts htotal hdistinct hsessions hchunks.symm).2
  rw [hcut.flatten] at haccounts
  exact ⟨ChunkResult.concat chunks, rfl, haccounts⟩

/-! ### The whole check -/

/-- Loading the source opens no session, whether it succeeds or not, and changes nothing else. -/
theorem loadSource_spec {host : Host} {h h' : History} {o : Outcome CheckState}
    (hrun : (loadSource settings state).run host h = (o, h')) :
    h'.sessions = h.sessions ∧
      ∀ loaded, o = .ok loaded → ∃ source, loaded = { state with source := source } := by
  simp only [loadSource] at hrun
  split at hrun
  · rw [Work.run_bind_ok (Work.run_tellAll host h _)] at hrun
    split at hrun
    · rw [Work.run_bind_ok (Work.run_tellAll host _ _)] at hrun
      cases hrun
      exact ⟨rfl, fun loaded hloaded => ⟨_, (Except.ok.inj hloaded).symm⟩⟩
    · rw [Work.run_bind_ok (Work.run_tellAll host _ _)] at hrun
      cases hrun
      exact ⟨rfl, fun loaded hloaded => ⟨_, (Except.ok.inj hloaded).symm⟩⟩
    · cases hrun
      exact ⟨rfl, fun loaded hloaded => nomatch hloaded⟩
  · cases hrun
    exact ⟨rfl, fun loaded hloaded => ⟨_, (Except.ok.inj hloaded).symm⟩⟩

theorem loadSource_sessions {host : Host} {h h' : History} {o : Outcome CheckState}
    (hrun : (loadSource settings state).run host h = (o, h')) : h'.sessions = h.sessions :=
  (loadSource_spec hrun).1

/-- Counting the slides takes one session, and gives a range of them. -/
private theorem countSlides_spec {host : Host} {h h' : History} {counted : CheckState}
    (hrun : (countSlides settings state).run host h = (.ok counted, h')) :
    (∀ n ∈ counted.pageRange, 1 ≤ n ∧ n ≤ counted.totalSlides) ∧
      h.sessions.length < h'.sessions.length := by
  obtain ⟨total, h₁, hsession, hcounted⟩ := Work.run_bind_eq_ok_iff.mp hrun
  rw [Work.run_inSession] at hsession
  have hlength : h₁.sessions.length = h.sessions.length + 1 := by
    rw [← (Prod.mk.inj hsession).2, List.length_append]
    rfl
  split at hcounted
  · cases hcounted
  · obtain ⟨range, h₂, hrange, hnoted⟩ := Work.run_bind_eq_ok_iff.mp hcounted
    obtain ⟨_, h₃, hnote, hreturn⟩ := Work.run_bind_eq_ok_iff.mp hnoted
    rw [Work.run_ofOutcome] at hrange
    obtain ⟨hwithin, hsame⟩ := Prod.mk.inj hrange
    cases hnote
    cases hreturn
    cases hsame
    refine ⟨pageRange_within hwithin, ?_⟩
    dsimp only
    omega

theorem aggregate_spec {host : Host} {h h' : History} {done : CheckState}
    (hrun : (aggregate state).run host h = (.ok done, h')) :
    h'.sessions = h.sessions ∧ done =
      { state with
        result := some (CheckResult.ofResults state.totalSlides state.results state.skipped) } := by
  obtain ⟨_, h₁, hnote, hreturn⟩ := Work.run_bind_eq_ok_iff.mp hrun
  cases hnote
  cases hreturn
  exact ⟨rfl, rfl⟩

/-- What has become of the slides of a check. `h` and `h'` are the histories before and after it,
`done` is the state that its stages have left, and `result` is what it has come to. -/
structure Conserved (settings : Settings) (host : Host) (h h' : History) (done : CheckState)
    (result : CheckResult) : Prop where
  range_ascending : done.pageRange.Pairwise (· < ·)
  range_within : ∀ n ∈ done.pageRange, 1 ≤ n ∧ n ≤ done.totalSlides
  /-- Each slide of the range is once among the results or once among the skipped slides. -/
  all : (done.results.map (·.page) ++ done.skipped).Perm done.pageRange
  apart : ∀ r ∈ done.results, r.page ∉ done.skipped
  checked_ascending : (done.results.map (·.page)).Pairwise (· < ·)
  skipped_ascending : done.skipped.Pairwise (· < ·)
  /-- A slide is visited once, and skipped if and only if both attempts to go to it fail or a call
  of its inspection does. -/
  skipped_iff : ∀ n ∈ done.pageRange, ∃ k calls s, h.sessions.length < k ∧
    h'.sessions[k]? = some calls ∧ Visit settings done (host k) calls n s ∧
      (n ∈ done.skipped ↔
        Unreached (done.pace settings) (host k) s n ∨ Uninspected settings done (host k) s n)
  result_skipped : result.skipped = done.skipped
  issues_ascending : result.slidesWithIssues.Pairwise (· < ·)
  issues_eq : result.slidesWithIssues = result.slides.map (·.page)
  issues_iff : ∀ n, n ∈ result.slidesWithIssues ↔ ∃ r ∈ done.results, r.page = n ∧ r.issues ≠ []
  issues_apart : ∀ n ∈ result.slidesWithIssues, n ∉ result.skipped

/-- What is noted in the state afterwards does not change the visits. -/
private theorem DecidedIn.noted {c : ChunkResult} {result : Option CheckResult} {host : Host}
    {least : Nat} {sessions : List (List Call)} {skipped : Prop}
    (hdecided : DecidedIn settings state host least sessions n skipped) :
    DecidedIn settings { state with results := c.results, skipped := c.skipped, result := result }
      host least sessions n skipped := by
  obtain ⟨k, calls, hk, hcalls, s, ⟨hknown, hfirst, hmade⟩, hskipped⟩ := hdecided
  exact ⟨k, calls, hk, hcalls, s, ⟨hknown, hfirst, hmade⟩, hskipped⟩

/-- A range that is accounted for is conserved in the result that the slides are put together to. -/
private theorem ChunkResult.Accounts.conserved {c : ChunkResult} {host : Host} {h h' : History}
    {least : Nat}
    (haccounts : c.Accounts state.pageRange (DecidedIn settings state host least h'.sessions))
    (hleast : h.sessions.length < least) (hascending : state.pageRange.Pairwise (· < ·))
    (hwithin : ∀ n ∈ state.pageRange, 1 ≤ n ∧ n ≤ state.totalSlides) :
    let result := CheckResult.ofResults state.totalSlides c.results c.skipped
    Conserved settings host h h'
      { state with results := c.results, skipped := c.skipped, result := some result } result := by
  intro result
  have hchecked := hascending.sublist haccounts.checked
  have hskipped := hascending.sublist haccounts.skipped
  have hdistinct : (c.results.map (·.page) ++ c.skipped).Nodup :=
    haccounts.all.nodup_iff.mpr (hascending.imp Int.ne_of_lt)
  have hapart : ∀ r ∈ c.results, r.page ∉ c.skipped := fun r hr hin =>
    (List.nodup_append.mp hdistinct).2.2 _ (List.mem_map_of_mem hr) _ hin rfl
  have hsame : result.skipped = c.skipped := CheckResult.skipped_of_pairwise _ _ _ hskipped
  exact {
    range_ascending := hascending
    range_within := hwithin
    all := haccounts.all
    apart := hapart
    checked_ascending := hchecked
    skipped_ascending := hskipped
    skipped_iff := by
      intro m hm
      obtain ⟨k, calls, hk, hcalls, s, hvisit, hmissed⟩ := (haccounts.decided m hm).noted
      exact ⟨k, calls, s, Nat.lt_of_lt_of_le hleast hk, hcalls, hvisit, hmissed⟩
    result_skipped := hsame
    issues_ascending := hchecked.sublist (CheckResult.slidesWithIssues_sublist _ _ _)
    issues_eq := rfl
    issues_iff := fun m => CheckResult.mem_slidesWithIssues _ _ _
    issues_apart := by
      intro m hm
      obtain ⟨r, hr, rfl, _⟩ := (CheckResult.mem_slidesWithIssues _ _ _).mp hm
      rw [hsame]
      exact hapart r hr }

/-- A check comes to the result in the state that its stages end in. -/
theorem check_ok_iff {host : Host} {h h' : History} {result : CheckResult} :
    (check settings state).run host h = (.ok result, h') ↔
      ∃ final, (pipeline (stages settings) state).run host h = (.ok final, h') ∧
        final.result = some result := by
  rw [check, Work.run_bind_eq_ok_iff]
  constructor
  · rintro ⟨final, h₁, hpipeline, hreturn⟩
    cases hresult : final.result with
    | none =>
      rw [hresult] at hreturn
      cases hreturn
    | some r =>
      rw [hresult] at hreturn
      cases hreturn
      exact ⟨final, hpipeline, hresult⟩
  · rintro ⟨final, hpipeline, hresult⟩
    refine ⟨final, h', hpipeline, ?_⟩
    rw [hresult]
    rfl

/-- No slide of a check is lost or counted twice. -/
theorem check_conserved {host : Host} {h h' : History} {result : CheckResult}
    (hrun : (check settings state).run host h = (.ok result, h')) :
    ∃ done, (pipeline (stages settings) state).run host h = (.ok done, h') ∧
      done.result = some result ∧ Conserved settings host h h' done result := by
  obtain ⟨done, hpipeline, hresult⟩ := check_ok_iff.mp hrun
  refine ⟨done, hpipeline, hresult, ?_⟩
  simp only [pipeline, stages, List.foldlM_cons, List.foldlM_nil] at hpipeline
  obtain ⟨loaded, h₁, hload, hpipeline⟩ := Work.run_bind_eq_ok_iff.mp hpipeline
  obtain ⟨counted, h₂, hcount, hpipeline⟩ := Work.run_bind_eq_ok_iff.mp hpipeline
  obtain ⟨checked, h₃, hcheck, hpipeline⟩ := Work.run_bind_eq_ok_iff.mp hpipeline
  obtain ⟨aggregated, h₄, haggregate, hpipeline⟩ := Work.run_bind_eq_ok_iff.mp hpipeline
  cases hpipeline
  obtain ⟨hcounted, hascending⟩ := countSlides_prepared (congrArg Prod.fst hcount)
  obtain ⟨hwithin, hsessions⟩ := countSlides_spec hcount
  rw [loadSource_sessions hload] at hsessions
  obtain ⟨c, rfl, haccounts⟩ := checkPages_accounts hcounted hascending hcheck
  obtain ⟨hsame, rfl⟩ := aggregate_spec haggregate
  rw [← hsame] at haccounts
  cases hresult
  exact haccounts.conserved hsessions hascending hwithin

/-- Four slides, of which the second one cannot be reached and the third one cannot be inspected.
The last one shows a scrollbar. -/
def scrolling : Page := fun calls c =>
  match c with
  | .total => .ok (.ofInt 4)
  | .snapshot _ =>
    if shown calls = 4 then
      .ok (.record [("elements", .list [.record [("tag", .text "div"),
        ("clientHeight", .ofInt 10), ("scrollHeight", .ofInt 20), ("overflowY", .text "auto")]])])
    else patchy.page calls c
  | c => patchy.page calls c

/-- Two workers, each of which skips a slide. -/
theorem check_conserved_of_scrolling :
    let state : CheckState :=
      { CheckState.ofSettings {} "http://localhost:3030" with
        concurrency := 2
        detection := { text := false, element := false } }
    ∃ result h' done, (check {} state).run (fun _ => scrolling) {} = (.ok result, h') ∧
      result.slidesWithIssues = [4] ∧ done.skipped = [2, 3] ∧
        Conserved {} (fun _ => scrolling) {} h' done result := by
  intro state
  have hissues : ((check {} state).run (fun _ => scrolling) {}).1.toOption.map
      (·.slidesWithIssues) = some [4] := by
    decide +kernel
  have hskipped : ((pipeline (stages {}) state).run (fun _ => scrolling) {}).1.toOption.map
      (·.skipped) = some [2, 3] := by
    decide +kernel
  rcases hrun : (check {} state).run (fun _ => scrolling) {} with ⟨outcome, h'⟩
  rw [hrun] at hissues
  cases outcome with
  | error e => exact nomatch hissues
  | ok result =>
    obtain ⟨done, hdone, _, hconserved⟩ := check_conserved hrun
    rw [hdone] at hskipped
    exact ⟨result, h', done, rfl, Option.some.inj hissues, Option.some.inj hskipped, hconserved⟩

end SlideOverflow.Check
