import SlideOverflow.Session.Detection
import SlideOverflow.Session.Laws
import SlideOverflow.Session.Navigation

/-! Presentations whose slides are rendered apart from each other. What a page answers on a slide
then depends on what the session has done on that slide, and on nothing else; so a session does on a
slide what a session would do that knew this slide only. -/
namespace SlideOverflow.Session
open Number Activity Inspection

variable {α β : Type}

/-! ### Calls and slides -/

/-- The slide that a call is about while slide `n` is shown: the one that is gone to, or else the
one that is shown. -/
def Call.slide (c : Call) (n : Int) : Int :=
  match c with
  | .navigate m => m
  | _ => n

/-- The slide that is shown after some calls. Sessions begin on the first slide. -/
def shown (calls : List Call) : Int := calls.foldl (fun n c => c.slide n) 1

def located (n : Int) : List Call → List (Int × Call)
  | [] => []
  | c :: cs => (c.slide n, c) :: located (c.slide n) cs

def callsOn (n : Int) (calls : List Call) : List Call :=
  ((located 1 calls).filter fun p => p.1 == n).map Prod.snd

private theorem shown_concat (calls : List Call) (c : Call) :
    shown (calls ++ [c]) = c.slide (shown calls) := by
  rw [shown, List.foldl_append]
  rfl

private theorem located_append (n : Int) (xs ys : List Call) :
    located n (xs ++ ys) = located n xs ++ located (xs.foldl (fun n c => c.slide n) n) ys := by
  induction xs generalizing n with
  | nil => rfl
  | cons c xs ih => rw [List.cons_append, located, ih, located, List.cons_append, List.foldl_cons]

private theorem callsOn_concat (n : Int) (calls : List Call) (c : Call) :
    callsOn n (calls ++ [c]) =
      callsOn n calls ++ if c.slide (shown calls) = n then [c] else [] := by
  rw [callsOn, located_append, List.filter_append, List.map_append]
  congr 1
  by_cases h : c.slide (shown calls) = n
  · rw [if_pos h]
    have hc : located (shown calls) [c] = [(n, c)] := by rw [located, located, h]
    rw [← shown, hc]
    simp
  · rw [if_neg h]
    have hc : located (shown calls) [c] = [(c.slide (shown calls), c)] := by rw [located, located]
    rw [← shown, hc]
    simp [h]

/-- A presentation whose slides are rendered apart from each other. -/
structure Rendering where
  /-- The answer to a call about a slide, after the earlier calls of the session about it. -/
  answer : Int → List Call → Call → Except String Json
  closing : Except String Json

def Rendering.page (r : Rendering) : Page := fun calls c =>
  match c with
  | .close => r.closing
  | c => r.answer (c.slide (shown calls)) (callsOn (c.slide (shown calls)) calls) c

theorem Rendering.page_eq (r : Rendering) (calls : List Call) {c : Call} (h : c ≠ .close) :
    r.page calls c =
      r.answer (c.slide (shown calls)) (callsOn (c.slide (shown calls)) calls) c := by
  cases c <;> first | rfl | exact absurd rfl h

/-! ### A slide alone -/

/-- A session, and one that knows slide `n` only: both have done the same on it, and remember the
same number of slides. -/
structure Abreast (n total : Int) (s t : Journal) : Prop where
  calls : t.calls = callsOn n s.calls
  known : s.total = some total
  knownAlone : t.total = some total

structure Facing (n total : Int) (s t : Journal) : Prop extends Abreast n total s t where
  shown : shown s.calls = n

/-- An activity does in the first session what it does in the second one. It ends on the slide, and
has done nothing on other slides. -/
structure Alike (r : Rendering) (n total : Int) (s t : Journal) (x : Activity α) : Prop where
  outcome : (x.run r.page s).1 = (x.run (r.answer n) t).1
  facing : Facing n total (x.run r.page s).2 (x.run (r.answer n) t).2
  others : ∀ m, m ≠ n → callsOn m (x.run r.page s).2.calls = callsOn m s.calls

def Enters (r : Rendering) (n total : Int) (x : Activity α) : Prop :=
  ∀ s t, Abreast n total s t → Alike r n total s t x

def Stays (r : Rendering) (n total : Int) (x : Activity α) : Prop :=
  ∀ s t, Facing n total s t → Alike r n total s t x

variable {r : Rendering} {n total : Int} {s t : Journal}

theorem Alike.bind {x : Activity α} {f : α → Activity β} (hx : Alike r n total s t x)
    (hf : ∀ a, Stays r n total (f a)) : Alike r n total s t (x >>= f) := by
  obtain ⟨ho, hfacing, hothers⟩ := hx
  rcases hs : x.run r.page s with ⟨o, s'⟩
  rcases ht : x.run (r.answer n) t with ⟨o', t'⟩
  simp only [hs, ht] at ho hfacing hothers
  subst ho
  cases o with
  | error e =>
    constructor
    · rw [run_bind, run_bind, hs, ht]
    · simpa only [run_bind, hs, ht] using hfacing
    · simpa only [run_bind, hs] using hothers
  | ok a =>
    obtain ⟨ho', hfacing', hothers'⟩ := hf a s' t' hfacing
    constructor
    · simpa only [run_bind, hs, ht] using ho'
    · simpa only [run_bind, hs, ht] using hfacing'
    · simp only [run_bind, hs]
      exact fun m hm => (hothers' m hm).trans (hothers m hm)

theorem Alike.observe {x : Activity α} (hx : Alike r n total s t x) :
    Alike r n total s t (observe x) := by
  obtain ⟨ho, hfacing, hothers⟩ := hx
  constructor
  · rw [run_observe, run_observe, ho]
  · simpa only [run_observe] using hfacing
  · simpa only [run_observe] using hothers

/-- An activity that makes no call, remembers the number of slides and has an outcome of its own. -/
theorem Stays.quiet {x : Activity α} {o : Outcome α}
    (h : ∀ page s, (x.run page s).1 = o ∧ (x.run page s).2.calls = s.calls ∧
      (x.run page s).2.total = s.total) : Stays r n total x := by
  rintro s t ⟨⟨hcalls, hs, ht⟩, hshown⟩
  obtain ⟨ho, hc, hk⟩ := h r.page s
  obtain ⟨ho', hc', hk'⟩ := h (r.answer n) t
  refine ⟨ho.trans ho'.symm, ⟨⟨?_, hk.trans hs, hk'.trans ht⟩, ?_⟩, fun m _ => by rw [hc]⟩
  · rw [hc, hc', hcalls]
  · rw [hc, hshown]

theorem Stays.pure (a : α) : Stays r n total (pure a) :=
  Stays.quiet fun _ _ => ⟨rfl, rfl, rfl⟩

theorem Stays.throw (e : Failure) : Stays r n total (throw e : Activity α) :=
  Stays.quiet fun _ _ => ⟨rfl, rfl, rfl⟩

theorem Stays.ofOutcome (o : Outcome α) : Stays r n total (ofOutcome o) :=
  Stays.quiet fun _ _ => by rw [run_ofOutcome]; exact ⟨rfl, rfl, rfl⟩

theorem Stays.tell (e : LogEntry) : Stays r n total (tell e) :=
  Stays.quiet fun _ _ => ⟨rfl, rfl, rfl⟩

theorem Stays.bind {x : Activity α} {f : α → Activity β} (hx : Stays r n total x)
    (hf : ∀ a, Stays r n total (f a)) : Stays r n total (x >>= f) :=
  fun s t h => (hx s t h).bind hf

theorem Alike.orElse {x : Activity α} {handle : String → Activity α}
    (hx : Alike r n total s t x) (hh : ∀ message, Stays r n total (handle message)) :
    Alike r n total s t (orElse x handle) := by
  refine hx.observe.bind fun o => ?_
  rcases o with e | a
  · cases e with
    | page message => exact hh message
    | _ => exact Stays.throw _
  · exact Stays.pure a

theorem Stays.forM {f : α → Activity Unit} (hf : ∀ a, Stays r n total (f a)) (l : List α) :
    Stays r n total (l.forM f) := by
  induction l with
  | nil => exact Stays.pure ()
  | cons a l ih => exact (hf a).bind fun _ => ih

private theorem alike_call {c : Call} (h : Abreast n total s t) (hclose : c ≠ .close)
    (hslide : c.slide (shown s.calls) = n) : Alike r n total s t (call c) := by
  obtain ⟨hcalls, hs, ht⟩ := h
  constructor
  · rw [run_call, run_call, r.page_eq s.calls hclose, hslide, hcalls]
  · simp only [run_call]
    refine ⟨⟨?_, hs, ht⟩, ?_⟩
    · rw [callsOn_concat, if_pos hslide, hcalls]
    · rw [shown_concat, hslide]
  · intro m hm
    simp only [run_call]
    rw [callsOn_concat, if_neg (by rw [hslide]; exact hm.symm), List.append_nil]

theorem Stays.call {c : Call} (hclose : c ≠ .close) (hslide : ∀ m, c.slide m = m) :
    Stays r n total (call c) :=
  fun _ _ h => alike_call h.toAbreast hclose (by rw [hslide, h.shown])

theorem Stays.perform {c : Call} (hclose : c ≠ .close) (hslide : ∀ m, c.slide m = m) :
    Stays r n total (perform c) :=
  (Stays.call hclose hslide).bind fun _ => Stays.pure ()

theorem Enters.perform_navigate : Enters r n total (perform (.navigate n)) :=
  fun _ _ h => (alike_call h (by simp) rfl).bind fun _ => Stays.pure ()

theorem Enters.tell_bind {x : Unit → Activity α} (e : LogEntry) (hx : Enters r n total (x ())) :
    Enters r n total (tell e >>= x) := by
  rintro s t ⟨hcalls, hs, ht⟩
  obtain ⟨ho, hfacing, hothers⟩ :=
    hx { s with log := s.log ++ [e] } { t with log := t.log ++ [e] } ⟨hcalls, hs, ht⟩
  exact ⟨ho, hfacing, hothers⟩

theorem Stays.knownTotal_bind {f : Int → Activity α} (hf : Stays r n total (f total)) :
    Stays r n total (knownTotal >>= f) := by
  intro s t h
  have hrun (page : Page) {u : Journal} (hu : u.total = some total) :
      (knownTotal >>= f).run page u = (f total).run page u := by
    have hk : knownTotal.run page u = (.ok (u.total.getD 0), u) := rfl
    rw [run_bind, hk, hu, Option.getD_some]
  obtain ⟨ho, hfacing, hothers⟩ := hf s t h
  constructor
  · rw [hrun _ h.known, hrun _ h.knownAlone, ho]
  · rw [hrun _ h.known, hrun _ h.knownAlone]
    exact hfacing
  · rw [hrun _ h.known]
    exact hothers

/-! ### Navigation and detection -/

/-- The number of slides is not read while it is remembered. -/
private theorem stays_awaitLoad (pace : Pace) (htotal : total ≠ 0) :
    Stays r n total (awaitLoad pace) := by
  refine (Stays.perform (by simp) fun _ => rfl).bind fun _ => Stays.knownTotal_bind ?_
  rw [if_neg (by simpa using htotal)]
  refine Stays.knownTotal_bind ((Stays.perform (by simp) fun _ => rfl).bind fun _ => ?_)
  split
  · exact Stays.perform (by simp) fun _ => rfl
  · exact Stays.pure ()

private theorem enters_attempt (pace : Pace) (htotal : total ≠ 0) :
    Enters r n total (attempt pace n) :=
  Enters.tell_bind _ fun s t h =>
    (Enters.perform_navigate s t h).bind fun _ => stays_awaitLoad pace htotal

theorem enters_navigate (pace : Pace) (htotal : total ≠ 0) :
    Enters r n total (navigate pace n) := by
  intro s t h
  refine (enters_attempt pace htotal s t h).orElse fun message => ?_
  -- A failed attempt has called the slide already, so the second one starts on it.
  refine (Stays.tell _).bind fun _ => (Stays.perform (by simp) fun _ => rfl).bind fun _ => ?_
  intro s t h
  exact (enters_attempt pace htotal s t h.toAbreast).orElse fun message => Stays.throw _

/-- What was reported before decides about the log alone. -/
private theorem stays_reportSelector (j : Json) : Stays r n total (reportSelector j) := by
  refine @Stays.quiet _ _ _ _ _ ((selector j).map fun _ => ()) fun page s => ?_
  rw [reportSelector, run_bind, run_ofOutcome]
  cases selector j with
  | error e => exact ⟨rfl, rfl, rfl⟩
  | ok invalid =>
    have hget : (getThe Journal : Activity Journal).run page s = (.ok s, s) := rfl
    simp only [run_bind, hget]
    split <;> exact ⟨rfl, rfl, rfl⟩

private theorem stays_takeSnapshot (request : SnapshotRequest) :
    Stays r n total (takeSnapshot request) := by
  refine (Stays.call (by simp) fun _ => rfl).bind fun snapshot => ?_
  split
  · exact (Stays.ofOutcome _).bind fun invalid =>
      (Stays.forM stays_reportSelector invalid).bind fun _ => Stays.pure snapshot
  · exact Stays.pure snapshot

private theorem stays_activeSnapshot (settings : Settings) (detection : Detection) (rounds : Nat) :
    Stays r n total (activeSnapshot settings detection rounds) := by
  induction rounds with
  | zero => exact Stays.throw _
  | succ rounds ih =>
    refine (Stays.call (by simp) fun _ => rfl).bind fun census => ?_
    refine (Stays.ofOutcome _).bind fun (slide, found) => (Stays.tell found).bind fun _ => ?_
    refine (stays_takeSnapshot _).bind fun snapshot => ?_
    split
    · exact (Stays.tell _).bind fun _ => ih
    · exact Stays.pure _

theorem stays_detect (settings : Settings) (detection : Detection) :
    Stays r n total (detect settings detection) := by
  refine (stays_activeSnapshot settings detection rounds).bind fun snapshot => ?_
  refine (Stays.ofOutcome _).bind fun issues => (Stays.ofOutcome _).bind fun elements => ?_
  exact (Stays.tell _).bind fun _ => Stays.pure issues

end SlideOverflow.Session
