import SlideOverflow.Check.Run
import SlideOverflow.Proofs.Number.Quotients

/-! The chunks that workers get. A list is cut into contiguous pieces of one size, with at most one
piece for each worker, and each piece is checked in a session of its own. So a check opens no more
sessions for its pages than workers were asked for. -/
namespace SlideOverflow.Check

open Number Session

variable {α : Type}

/-! ### Pieces -/

/-- A list is cut into contiguous pieces of some size, the last of which may be smaller. -/
structure CutInto (size : Nat) (l : List α) (parts : List (List α)) : Prop where
  flatten : parts.flatten = l
  filled : ∀ part ∈ parts, part ≠ []
  full : ∀ part ∈ parts.dropLast, part.length = size
  last : ∀ part ∈ parts.getLast?, part.length ≤ size

theorem CutInto.nil (size : Nat) : CutInto size ([] : List α) [] where
  flatten := rfl
  filled := by simp
  full := by simp
  last := by simp

theorem CutInto.single {size : Nat} {part : List α} (hfilled : part ≠ [])
    (hlast : part.length ≤ size) : CutInto size part [part] where
  flatten := List.flatten_singleton
  filled := by simpa using hfilled
  full := by simp
  last := by simpa using hlast

/-- Another full piece in front. -/
theorem CutInto.cons {size : Nat} {part l : List α} {parts : List (List α)}
    (h : CutInto size l parts) (hl : l ≠ []) (hfilled : part ≠ []) (hfull : part.length = size) :
    CutInto size (part ++ l) (part :: parts) := by
  have hparts : parts ≠ [] := by
    rintro rfl
    exact hl h.flatten.symm
  refine ⟨by rw [List.flatten_cons, h.flatten], ?_, ?_, ?_⟩
  · exact List.forall_mem_cons.mpr ⟨hfilled, h.filled⟩
  · rw [List.dropLast_cons_of_ne_nil hparts]
    exact List.forall_mem_cons.mpr ⟨hfull, h.full⟩
  · rw [List.getLast?_cons_of_ne_nil hparts]
    exact h.last

private theorem pieces_cutInto {size : Nat} (hsize : 0 < size) (l : List α) :
    CutInto size l (pieces size l) := by
  induction l using @pieces.induct α size with
  | case1 =>
    rw [pieces]
    exact .nil size
  | case2 a l ih =>
    rw [pieces]
    by_cases hrest : l.drop (size - 1) = []
    · have hshort : l.length ≤ size - 1 := List.drop_eq_nil_iff.mp hrest
      rw [hrest, pieces, List.take_of_length_le hshort]
      refine .single (List.cons_ne_nil a l) ?_
      rw [List.length_cons]
      omega
    · have hlong : size - 1 < l.length := by
        by_contra hshort
        exact hrest (List.drop_eq_nil_of_le (by omega))
      have hcons := ih.cons hrest (List.cons_ne_nil a (l.take (size - 1))) (by
        rw [List.length_cons, List.length_take]
        omega)
      rwa [List.cons_append, List.take_append_drop] at hcons

/-- There are no more than so many pieces if their sizes are enough for the list. -/
private theorem length_pieces_le_iff {size : Nat} (hsize : 0 < size) (l : List α) (k : Nat) :
    (pieces size l).length ≤ k ↔ l.length ≤ size * k := by
  induction l using @pieces.induct α size generalizing k with
  | case1 => simp [pieces]
  | case2 a l ih =>
    rw [pieces, List.length_cons, List.length_cons]
    cases k with
    | zero => simp
    | succ k =>
      rw [Nat.succ_le_succ_iff, ih, List.length_drop, Nat.mul_succ]
      omega

/-! ### Shares -/

private theorem workerCount_cast (workers : Int) : (workerCount workers : Int) = max workers 1 := by
  rw [workerCount]
  omega

/-- Where there are that many more workers than elements, the share of a worker is next to
nothing. -/
private theorem pieceSize_eq_zero_iff {length : Nat} (hpos : 0 < length) (workers : Int) :
    pieceSize length workers = 0 ↔ (length : Int) * 2 ^ 1075 ≤ workers := by
  rw [pieceSize, Scaled.ceil_quotient_eq_zero_iff hpos (workerCount_pos workers)]
  have hone : 1 < (length : Int) * 2 ^ 1075 := by
    have hlength : 1 ≤ (length : Int) := by omega
    have hpow : (1 : Int) < 2 ^ 1075 := one_lt_pow₀ one_lt_two (by decide)
    calc
      (1 : Int) < 2 ^ 1075 := hpow
      _ ≤ length * 2 ^ 1075 := le_mul_of_one_le_left (by positivity) hlength
  have hcast : length * 2 ^ 1075 ≤ workerCount workers ↔
      (length : Int) * 2 ^ 1075 ≤ max workers 1 := by
    rw [← workerCount_cast]
    exact_mod_cast Iff.rfl
  rw [hcast, le_max_iff, or_iff_left hone.not_ge]

/-- The size of a piece is the exact quotient rounded up, for lists that are not longer than what a
double counts. -/
private theorem pieceSize_le_iff {length : Nat} {workers : Int} (hlength : length ≤ 2 ^ 53)
    (hshare : workers < length * 2 ^ 1075) (hpos : 0 < length) (c : Nat) :
    pieceSize length workers ≤ c ↔ length ≤ workerCount workers * c := by
  have hsome : ¬length * 2 ^ 1075 ≤ workerCount workers := by
    rw [← Scaled.ceil_quotient_eq_zero_iff hpos (workerCount_pos workers)]
    exact fun hzero => ((pieceSize_eq_zero_iff hpos workers).mp hzero).not_gt hshare
  exact Scaled.ceil_quotient_le_iff (workerCount_pos workers) hlength (not_le.mp hsome) c

private theorem pieceSize_eq_ceil {length : Nat} {workers : Int} (hlength : length ≤ 2 ^ 53)
    (hshare : workers < length * 2 ^ 1075) (hpos : 0 < length) :
    pieceSize length workers = ⌈(length : ℚ) / (max workers 1 : Int)⌉₊ := by
  rw [← workerCount_cast, Int.cast_natCast]
  refine eq_of_forall_ge_iff fun c => ?_
  have hworkers : (0 : ℚ) < workerCount workers := Nat.cast_pos.mpr (workerCount_pos workers)
  rw [pieceSize_le_iff hlength hshare hpos, Nat.ceil_le, div_le_iff₀ hworkers, Nat.mul_comm]
  exact_mod_cast Iff.rfl

/-! ### Chunks -/

private theorem chunks_of_ne_nil {l : List α} (hl : l ≠ []) (workers : Int) :
    chunks l workers = if pieceSize l.length workers = 0 then Outcome.reject .badValue
      else .ok (pieces (pieceSize l.length workers) l) := by
  rw [chunks, if_neg fun hempty => hl (List.isEmpty_iff.mp hempty)]

/-- A list is cut unless the share of a worker is next to nothing. -/
private theorem chunks_of_share {l : List α} {workers : Int}
    (hshare : l = [] ∨ workers < l.length * 2 ^ 1075) :
    chunks l workers = .ok (pieces (pieceSize l.length workers) l) := by
  by_cases hl : l = []
  · rw [hl, pieces]
    rfl
  · have hpos : 0 < l.length := List.length_pos_iff.mpr hl
    rw [chunks_of_ne_nil hl, if_neg]
    rw [pieceSize_eq_zero_iff hpos]
    exact (hshare.resolve_left hl).not_ge

private theorem chunks_of_no_share {l : List α} {workers : Int} (hl : l ≠ [])
    (hshare : (l.length : Int) * 2 ^ 1075 ≤ workers) :
    chunks l workers = Outcome.reject .badValue := by
  have hpos : 0 < l.length := List.length_pos_iff.mpr hl
  rw [chunks_of_ne_nil hl, if_pos ((pieceSize_eq_zero_iff hpos workers).mpr hshare)]

private theorem exists_chunks_iff (l : List α) (workers : Int) :
    (∃ parts, chunks l workers = .ok parts) ↔ l = [] ∨ workers < l.length * 2 ^ 1075 := by
  constructor
  · rintro ⟨parts, hparts⟩
    by_contra hnone
    rw [not_or, not_lt] at hnone
    rw [chunks_of_no_share hnone.1 hnone.2] at hparts
    cases hparts
  · exact fun hshare => ⟨_, chunks_of_share hshare⟩

/-- What becomes of a list that is cut. -/
theorem chunks_spec {l : List α} {workers : Int} {parts : List (List α)}
    (hparts : chunks l workers = .ok parts) :
    ∃ size, CutInto size l parts ∧ (l.length ≤ 2 ^ 53 →
      size = ⌈(l.length : ℚ) / (max workers 1 : Int)⌉₊ ∧ parts.length ≤ workerCount workers) := by
  have hshare := (exists_chunks_iff l workers).mp ⟨parts, hparts⟩
  rw [chunks_of_share hshare] at hparts
  cases hparts
  by_cases hl : l = []
  · refine ⟨0, ?_, fun _ => ⟨?_, ?_⟩⟩
    · rw [hl, pieces]
      exact .nil 0
    · rw [hl, List.length_nil, Nat.cast_zero, zero_div, Nat.ceil_zero]
    · rw [hl, pieces]
      exact Nat.zero_le _
  · have hpos : 0 < l.length := List.length_pos_iff.mpr hl
    have hworkers := hshare.resolve_left hl
    have hsize : 0 < pieceSize l.length workers := by
      rw [Nat.pos_iff_ne_zero, Ne, pieceSize_eq_zero_iff hpos]
      exact hworkers.not_ge
    refine ⟨_, pieces_cutInto hsize l, fun hlength => ⟨?_, ?_⟩⟩
    · exact pieceSize_eq_ceil hlength hworkers hpos
    · rw [length_pieces_le_iff hsize, Nat.mul_comm, ← pieceSize_le_iff hlength hworkers hpos]

/-- Workers that are no more than the elements have shares. -/
private theorem chunks_of_le {l : List α} {workers : Int} (h : workers ≤ max 1 l.length) :
    chunks l workers = .ok (pieces (pieceSize l.length workers) l) := by
  refine chunks_of_share (or_iff_not_imp_left.mpr fun hl => ?_)
  have hpos : (0 : Int) < l.length := Int.natCast_pos.mpr (List.length_pos_iff.mpr hl)
  have hpow : (1 : Int) < 2 ^ 1075 := one_lt_pow₀ one_lt_two (by decide)
  calc
    workers ≤ l.length := by omega
    _ < l.length * 2 ^ 1075 := lt_mul_of_one_lt_right hpos hpow

/-! ### Sessions -/

/-- Activities that are observed one after the other have a session each, whatever the others come
to. -/
private theorem run_observeSessions {β : Type} (f : β → Activity α) (bs : List β) (host : Host)
    (h : History) :
    let own (i : Nat) (b : β) := (f b).run (host (h.sessions.length + i)) {}
    ∃ log, (bs.mapM fun b => Work.observeSession (f b)).run host h =
      (.ok (bs.mapIdx fun i b => (own i b).1),
        ⟨h.sessions ++ bs.mapIdx fun i b => (own i b).2.calls, log⟩) := by
  intro own
  induction bs generalizing h with
  | nil => exact ⟨h.log, by rw [List.mapIdx_nil, List.mapIdx_nil, List.append_nil]; rfl⟩
  | cons b bs ih =>
    obtain ⟨log, hrest⟩ := ih
      ⟨h.sessions ++ [(own 0 b).2.calls], h.log ++ (own 0 b).2.log⟩
    have hnext (i : Nat) :
        (h.sessions ++ [(own 0 b).2.calls]).length + i = h.sessions.length + (i + 1) := by
      rw [List.length_append, List.length_singleton, Nat.add_assoc, Nat.add_comm 1 i]
    simp only [hnext] at hrest
    refine ⟨log, ?_⟩
    rw [List.mapM_cons, Work.run_bind_ok (Work.run_observeSession host h (f b))]
    refine (Work.run_bind_ok hrest).trans ?_
    rw [Work.run_pure, List.mapIdx_cons, List.mapIdx_cons, List.append_assoc]
    rfl

theorem run_ofOutcomes {α β : Type} (f : α → Outcome β) (l : List α) (host : Host) (h : History) :
    ((l.map f).mapM Work.ofOutcome).run host h = (l.mapM f, h) := by
  induction l with
  | nil => rfl
  | cons a l ih =>
    rw [List.map_cons, List.mapM_cons, List.mapM_cons, Work.run_bind, Work.run_ofOutcome]
    cases f a with
    | error e => rfl
    | ok b =>
      simp only [Work.run_bind, ih]
      cases l.mapM f <;> rfl

def checkParts (settings : Settings) (state : CheckState) (parts : List (List Int)) :
    Work CheckState := do
  let outcomes ← parts.mapM fun part => Work.observeSession (checkChunk settings state part)
  let done ← outcomes.mapM Work.ofOutcome
  return { state with results := done.flatMap (·.results), skipped := done.flatMap (·.skipped) }

/-- Cutting the pages never fails, since there are no more workers than pages. What is told of the
workers changes nothing but the log. -/
theorem run_checkPages (settings : Settings) (state : CheckState) (host : Host) (h : History) :
    ∃ parts told, chunks state.pageRange (max 1 (min state.concurrency state.pageRange.length)) =
        .ok parts ∧
      (checkPages settings state).run host h =
        (checkParts settings state parts).run host { h with log := h.log ++ told } := by
  have hparts := @chunks_of_le _ state.pageRange
    (max 1 (min state.concurrency state.pageRange.length)) (by omega)
  generalize pieces _ state.pageRange = parts at hparts
  rw [checkPages, hparts, Work.run_bind_ok (Work.run_ofOutcome host h _)]
  split
  · exact ⟨parts, _, rfl, Work.run_bind_ok (Work.run_note host h _ _)⟩
  · refine ⟨parts, [], rfl, ?_⟩
    rw [List.append_nil]
    rfl

/-- Whatever the parts come to, each of them is checked in the next session. -/
private theorem checkParts_sessions (settings : Settings) (state : CheckState)
    (parts : List (List Int)) (host : Host) (h : History) :
    ((checkParts settings state parts).run host h).2.sessions =
      h.sessions ++ parts.mapIdx fun i part =>
        ((checkChunk settings state part).run (host (h.sessions.length + i)) {}).2.calls := by
  obtain ⟨log, hrun⟩ := run_observeSessions (checkChunk settings state) parts host h
  generalize (parts.mapIdx fun i part =>
    ((checkChunk settings state part).run (host (h.sessions.length + i)) {}).1) = outcomes at hrun
  have hdone := run_ofOutcomes id outcomes host
  rw [List.map_id] at hdone
  rw [checkParts, Work.run_bind_ok hrun, Work.run_bind, hdone]
  cases outcomes.mapM id <;> rfl

/-! ### Workers -/

/-- A list is cut for some workers unless the share of a worker is next to nothing. The pieces are
contiguous and not empty, all but the last one have the same size, and the last one is not larger.
If the list is not longer than what a double counts, the size is the share of a worker, rounded up,
and there are no more pieces than workers. So the pages of a check are checked in no more sessions
than workers are asked for, each piece in the next one. -/
theorem chunks_partition (l : List α) (workers : Int) :
    ((∃ parts, chunks l workers = .ok parts) ↔ l = [] ∨ workers < l.length * 2 ^ 1075) ∧
      (∀ parts, chunks l workers = .ok parts → ∃ size, CutInto size l parts ∧
        (l.length ≤ 2 ^ 53 → size = ⌈(l.length : ℚ) / (max workers 1 : Int)⌉₊ ∧
          parts.length ≤ max workers 1)) ∧
      ∀ (settings : Settings) (state : CheckState) (host : Host) (h : History),
        state.pageRange.length ≤ 2 ^ 53 →
        ∃ parts opened,
          chunks state.pageRange (max 1 (min state.concurrency state.pageRange.length)) =
            .ok parts ∧
          (opened = parts.mapIdx fun i part =>
            ((checkChunk settings state part).run (host (h.sessions.length + i)) {}).2.calls) ∧
          ((checkPages settings state).run host h).2.sessions = h.sessions ++ opened ∧
          opened.length ≤ max state.concurrency 1 := by
  refine ⟨exists_chunks_iff l workers, fun parts hparts => ?_,
    fun settings state host h hrange => ?_⟩
  · obtain ⟨size, hcut, hexact⟩ := chunks_spec hparts
    refine ⟨size, hcut, fun hlength => ?_⟩
    obtain ⟨hsize, hcount⟩ := hexact hlength
    refine ⟨hsize, ?_⟩
    rw [← workerCount_cast]
    exact Int.ofNat_le.mpr hcount
  · obtain ⟨parts, told, hparts, hrun⟩ := run_checkPages settings state host h
    obtain ⟨size, -, hexact⟩ := chunks_spec hparts
    have hcount := Int.ofNat_le.mpr (hexact hrange).2
    rw [workerCount_cast] at hcount
    refine ⟨parts, _, hparts, rfl, ?_, ?_⟩
    · rw [hrun, checkParts_sessions]
    · rw [List.length_mapIdx]
      omega

/-- Five pages and two workers. -/
theorem chunks_partition_of_five :
    let pages : List Int := [1, 2, 3, 4, 5]
    let state : CheckState :=
      { CheckState.ofSettings {} "http://localhost:3030" with concurrency := 2, pageRange := pages }
    chunks pages 2 = .ok [[1, 2, 3], [4, 5]] ∧ CutInto 3 pages [[1, 2, 3], [4, 5]] ∧
      ((checkPages {} state).run (fun _ _ _ => .ok .null) {}).2.sessions.length = 2 := by
  intro pages state
  have hcut : chunks pages 2 = .ok [[1, 2, 3], [4, 5]] :=
    Outcome.toOption_eq_some_iff.mp (by decide +kernel)
  obtain ⟨-, hpieces, hsessions⟩ := chunks_partition pages 2
  refine ⟨hcut, ?_, ?_⟩
  · obtain ⟨size, hinto, hexact⟩ := hpieces _ hcut
    have hthree : size = 3 := by
      rw [(hexact (by decide)).1]
      norm_num [pages]
    exact hthree ▸ hinto
  · obtain ⟨parts, opened, hparts, rfl, hopened, -⟩ :=
      hsessions {} state (fun _ _ _ => .ok .null) {} (by decide)
    have hsame : parts = [[1, 2, 3], [4, 5]] := Except.ok.inj (hparts.symm.trans hcut)
    rw [hopened, hsame]
    rfl

/-- Of so many workers none has a share, and a list can be longer than what a double counts. -/
theorem chunks_not_partition :
    chunks [1] (10 ^ 324) = Outcome.reject .badValue ∧
      ∃ parts, chunks (List.replicate (2 ^ 53 + 1) ()) 1 = .ok parts ∧ 1 < parts.length := by
  constructor
  · exact chunks_of_no_share (List.cons_ne_nil 1 []) (by decide +kernel)
  · have hsize : pieceSize (2 ^ 53 + 1) 1 = 2 ^ 53 := by decide +kernel
    refine ⟨_, chunks_of_le (by rw [List.length_replicate]; omega), ?_⟩
    rw [← not_le, List.length_replicate, hsize, length_pieces_le_iff (by decide),
      List.length_replicate]
    decide

end SlideOverflow.Check
