import SlideOverflow.Proofs.Forecast.Ceilings

/-! Analyses with the ceilings of their document. Ceilings decide which issues are found, but not
whether an analysis comes to an end: that goes by the calibration. So a document can abort an
analysis only where its ceilings cannot be read. -/
namespace SlideOverflow.Forecast

open Metadata Number SlideOverflow.Geometry Deck

/-! ### Failing alike -/

/-- Two outcomes fail in the same way, or neither of them fails. -/
def FailsAlike {α β : Type} (x : Outcome α) (y : Outcome β) : Prop :=
  ∀ e, x = .error e ↔ y = .error e

namespace FailsAlike

variable {α β γ δ : Type}

private theorem refl (x : Outcome α) : FailsAlike x x := fun _ => Iff.rfl

private theorem ok (a : α) (b : β) : FailsAlike (.ok a) (.ok b) := fun _ => iff_of_false nofun nofun

private theorem error (e : Failure) : FailsAlike (.error e : Outcome α) (.error e : Outcome β) :=
  fun _ => ⟨fun h => congrArg _ (Except.error.inj h), fun h => congrArg _ (Except.error.inj h)⟩

private theorem bind (x : Outcome α) {f : α → Outcome β} {g : α → Outcome γ}
    (h : ∀ a, FailsAlike (f a) (g a)) : FailsAlike (x >>= f) (x >>= g) := by
  cases x with
  | ok a => exact h a
  | error e => exact error e

private theorem map {x : Outcome α} {y : Outcome β} (h : FailsAlike x y) (f : α → γ) (g : β → δ) :
    FailsAlike (do return f (← x)) (do return g (← y)) := by
  cases x with
  | error e =>
    cases (h e).mp rfl
    exact error e
  | ok a =>
    cases y with
    | error e => cases (h e).mpr rfl
    | ok b => exact ok _ _

private theorem mapM {f : α → Outcome β} {g : α → Outcome γ} (h : ∀ a, FailsAlike (f a) (g a))
    (l : List α) : FailsAlike (l.mapM f) (l.mapM g) := by
  induction l with
  | nil => exact ok _ _
  | cons a l ih =>
    rw [List.mapM_cons, List.mapM_cons]
    cases hf : f a with
    | error e =>
      rw [(h a e).mp hf]
      exact error e
    | ok b =>
      cases hg : g a with
      | error e =>
        rw [(h a e).mpr hg] at hf
        cases hf
      | ok c => exact ih.map (b :: ·) (c :: ·)

end FailsAlike

/-! ### Predictors of one calibration -/

section OneCalibration

variable {p q : Predictor}

private theorem Predictor.checkHeading_failsAlike (h : p.calibration = q.calibration)
    (layout : String) (level : Nat) (text : String) :
    FailsAlike (p.checkHeading layout level text) (q.checkHeading layout level text) := by
  rw [checkHeading, checkHeading, h]
  refine .bind _ fun e => ?_
  cases e.overflows with
  | true => exact .refl _
  | false =>
    -- Here the ceilings choose between an issue and none, and either is a result.
    cases p.headingIsLong text.length level <;>
      cases q.headingIsLong text.length level <;> exact .ok _ _

private theorem Predictor.checkCode_failsAlike (h : p.calibration = q.calibration) (layout : String)
    (code : String) : FailsAlike (p.checkCode layout code) (q.checkCode layout code) := by
  rw [checkCode, checkCode, h]
  exact .bind _ fun e => .ok _ _

private theorem Predictor.checkNode_failsAlike (h : p.calibration = q.calibration) (layout : String)
    (n : ContentNode) : FailsAlike (p.checkNode layout n) (q.checkNode layout n) := by
  rw [checkNode, checkNode]
  cases n.form with
  | heading level => exact (checkHeading_failsAlike h layout level _).map _ _
  | codeBlock => exact checkCode_failsAlike h layout _
  | _ => exact .ok _ _

private theorem Predictor.forecast_failsAlike (h : p.calibration = q.calibration) (s : Slide) :
    FailsAlike (p.forecast s) (q.forecast s) := by
  have hexpected : FailsAlike (p.expected s) (q.expected s) :=
    (FailsAlike.mapM (fun n => (checkNode_failsAlike h _ n).map _ _) s.nodes).map _ _
  rw [Predictor.forecast, Predictor.forecast]
  split
  · exact .ok _ _
  · exact hexpected.map _ _

private theorem Predictor.forecastAll_failsAlike (h : p.calibration = q.calibration)
    (slides : List Slide) :
    FailsAlike (p.forecastAll slides).1 (q.forecastAll slides).1 := by
  have hall := FailsAlike.mapM (forecast_failsAlike h) slides
  rw [forecastAll, forecastAll]
  cases hp : slides.mapM p.forecast with
  | error e =>
    rw [(hall e).mp hp]
    exact .refl _
  | ok all =>
    cases hq : slides.mapM q.forecast with
    | error e =>
      rw [(hall e).mpr hq] at hp
      cases hp
    | ok all' => exact .ok _ _

end OneCalibration

/-! ### The ceilings of a document -/

def askedCeilings (p : Presentation) : Datum :=
  (p.config.checker.getD .empty).getOrNull "thresholds"

/-- The same presentation without a part of the metadata for this program. -/
def withoutChecker (p : Presentation) : Presentation :=
  { p with config := { p.config with checker := none } }

/-- Two mappings of the same collections that differ at most under unknown keys. -/
def SameButUnknown (d d' : Datum) : Prop :=
  ∃ t t', d.table? = some t ∧ d'.table? = some t' ∧ t.shelf = t'.shelf ∧
    (t.entries.filter fun e => Ceiling.all.any fun k => e.1.sameKey (.text k.key)) =
      t'.entries.filter fun e => Ceiling.all.any fun k => e.1.sameKey (.text k.key)

/-- An entry for a ceiling is found among the entries with known keys. -/
private theorem Table.get?_key (t : Table) (k : Ceiling) :
    t.get? k.key = ((t.entries.filter fun e =>
      Ceiling.all.any fun j => e.1.sameKey (.text j.key)).find? fun e =>
        e.1.sameKey (.text k.key)).map fun e => ⟨t.shelf, e.2⟩ := by
  have hknown (e : Value × Value) (h : e.1.sameKey (.text k.key) = true) :
      (Ceiling.all.any fun j => e.1.sameKey (.text j.key)) = true :=
    List.any_eq_true.mpr ⟨k, k.mem_all, h⟩
  rw [Table.get?, List.find?_filter]
  congr 2
  funext e
  rw [Bool.eq_iff_iff, decide_eq_true_iff]
  exact (and_iff_right_of_imp (hknown e)).symm

private theorem SameButUnknown.asked?_eq {d d' : Datum} (h : SameButUnknown d d') (k : Ceiling) :
    asked? d k = asked? d' k := by
  obtain ⟨t, t', ht, ht', hshelf, hentries⟩ := h
  rw [asked?, asked?, ht, ht', Option.bind_some, Option.bind_some, Table.get?_key,
    Table.get?_key, hshelf, hentries]

variable {settings : Settings}

/-- The settings allow for something under each ceiling. -/
theorem get_ofSettings_pos (hs : settings.Valid) (k : Ceiling) :
    ∃ n, 0 < n ∧ (Ceilings.ofSettings settings).get k = .int n := by
  cases k with
  | h1 => exact ⟨_, hs.h1MaxChars, rfl⟩
  | h2 => exact ⟨_, hs.h2MaxChars, rfl⟩
  | h3 => exact ⟨_, hs.h3MaxChars, rfl⟩
  | code => exact ⟨_, hs.codeMaxLines, rfl⟩

private theorem Follows.get_pos {d : Datum} {c : Ceilings} {unusable : List UnusableCeiling}
    (hs : settings.Valid) (h : Follows (.ofSettings settings) d c unusable) (k : Ceiling) :
    ∃ n, 0 < n ∧ c.get k = .int n := by
  by_cases hsets : ∃ n, Sets d k n
  · obtain ⟨n, hn⟩ := hsets
    have hpos : 0 < n := by
      obtain ⟨_, _, hn⟩ := hn
      exact hn.2
    exact ⟨n, hpos, h.replaced k n hn⟩
  · rw [h.kept k (not_exists.mp hsets)]
    exact get_ofSettings_pos hs k

private def calibrationFor (settings : Settings) (config : DeckConfig) : Outcome Calibration := do
  Calibration.standard
    ⟨config.canvasWidth, ← canvasHeight settings config.canvasWidth config.aspectRatio.toString⟩

private theorem Predictor.ofConfig_eq {config : DeckConfig} {c : Ceilings}
    {unusable : List UnusableCeiling}
    (h : (Ceilings.ofSettings settings).ofDatum
      ((config.checker.getD .empty).getOrNull "thresholds") = .ok (c, unusable)) :
    ofConfig settings config =
      (calibrationFor settings config).map fun calibration => (⟨calibration, c⟩, unusable) := by
  simp only [ofConfig, calibrationFor, h]
  cases canvasHeight settings config.canvasWidth config.aspectRatio.toString with
  | error e => rfl
  | ok height =>
    simp only [bind, Except.bind]
    cases Calibration.standard ⟨config.canvasWidth, height⟩ <;> rfl

/-- Where the ceilings of a document can be read, the analysis goes as without them. -/
private theorem forecast_failsAlike {presentation : Presentation} {c : Ceilings}
    {unusable : List UnusableCeiling}
    (h : (Ceilings.ofSettings settings).ofDatum (askedCeilings presentation) = .ok (c, unusable)) :
    FailsAlike (forecast settings none presentation).1
      (forecast settings none (withoutChecker presentation)).1 := by
  have hplain : Predictor.ofConfig settings (withoutChecker presentation).config =
      (calibrationFor settings presentation.config).map fun calibration =>
        (⟨calibration, .ofSettings settings⟩, []) := Predictor.ofConfig_eq rfl
  rw [forecast, forecast, Predictor.ofConfig_eq h, hplain]
  cases calibrationFor settings presentation.config with
  | error e => exact .refl _
  | ok calibration =>
    exact @Predictor.forecastAll_failsAlike ⟨calibration, c⟩ ⟨calibration, .ofSettings settings⟩
      rfl presentation.slides

/-- The ceilings of a document are what they are meant to be, and positive, exactly if each value
for one of them is sound. Unknown keys never matter, and sound values never abort an analysis. -/
theorem ofDatum_follows_iff (hs : settings.Valid) (d : Datum) :
    ((∃ c unusable, (Ceilings.ofSettings settings).ofDatum d = .ok (c, unusable) ∧
        Follows (.ofSettings settings) d c unusable ∧ ∀ k, ∃ n, 0 < n ∧ c.get k = .int n) ↔
      ∀ k, IsSoundAt d k) ∧
    (∀ d', SameButUnknown d d' →
      (Ceilings.ofSettings settings).ofDatum d = (Ceilings.ofSettings settings).ofDatum d') ∧
    ((∀ k, IsSoundAt d k) → ∀ presentation, askedCeilings presentation = d →
      FailsAlike (forecast settings none presentation).1
        (forecast settings none (withoutChecker presentation)).1) := by
  refine ⟨⟨?_, fun hsound => ?_⟩, fun d' h => ofDatum_congr h.asked?_eq, ?_⟩
  · rintro ⟨c, unusable, hread, hfollows, -⟩
    exact (exists_follows_iff _ d).mp ⟨c, unusable, hread, hfollows⟩
  · obtain ⟨c, unusable, hread, hfollows⟩ := (exists_follows_iff _ d).mpr hsound
    exact ⟨c, unusable, hread, hfollows, hfollows.get_pos hs⟩
  · rintro hsound presentation rfl
    obtain ⟨c, unusable, hread, -⟩ :=
      (exists_follows_iff (.ofSettings settings) (askedCeilings presentation)).mpr hsound
    exact forecast_failsAlike hread

/-- Metadata that sets one ceiling, asks in vain for another one, and has an unknown key. -/
def mixedCeilings : Datum :=
  ⟨#[.mapping [(.text Ceiling.h1.key, .text "12"), (.text Ceiling.h2.key, .null),
    (.text "h4MaxChars", .bool true)]], .collection 0⟩

private theorem mixedCeilings_sound (k : Ceiling) : IsSoundAt mixedCeilings k := by
  intro v hv
  cases k with
  | h1 =>
    obtain ⟨-, hshort⟩ := readInt_eq_some_iff.mp (show readInt? 10 ['1', '2'] = some 12 from rfl)
    cases hv
    refine ⟨?_, fun _ n hn => nomatch hn⟩
    rintro (_ | _ | _ | ⟨-, -, hlong⟩)
    exact hshort hlong
  | h2 =>
    cases hv
    exact ⟨nofun, fun _ n hn => nomatch hn⟩
  | h3 => cases hv
  | code => cases hv

def deckAsking (d : Datum) : Presentation where
  config := {
    theme := "default"
    canvasWidth := 980
    aspectRatio := standardRatio
    fonts := none
    checker := some ⟨d.shelf, [(.text "thresholds", d.value)]⟩
    raw := .empty }
  slides := []
  warnings := []
  totalLines := 0

theorem ofDatum_follows_iff_of_mixed :
    Settings.Valid {} ∧ (∀ k, IsSoundAt mixedCeilings k) ∧
      (∃ c unusable, (Ceilings.ofSettings {}).ofDatum mixedCeilings = .ok (c, unusable) ∧
        Follows (.ofSettings {}) mixedCeilings c unusable ∧ ∀ k, ∃ n, 0 < n ∧ c.get k = .int n) ∧
      FailsAlike (forecast {} none (deckAsking mixedCeilings)).1
        (forecast {} none (withoutChecker (deckAsking mixedCeilings))).1 := by
  obtain ⟨hfollows, -, hanalysis⟩ := ofDatum_follows_iff Settings.valid_default mixedCeilings
  exact ⟨Settings.valid_default, mixedCeilings_sound, hfollows.mpr mixedCeilings_sound,
    hanalysis mixedCeilings_sound (deckAsking mixedCeilings) rfl⟩

/-- An infinity for a ceiling aborts the analysis. -/
theorem forecast_aborted_of_infinity :
    let d : Datum :=
      ⟨#[.mapping [(.text Ceiling.h1.key, .number (.real (1 / 0)))]], .collection 0⟩
    Settings.Valid {} ∧ (Ceilings.ofSettings {}).ofDatum d = .error (.defect .tooLarge) ∧
      (forecast {} none (deckAsking d)).1 = .error (.defect .tooLarge) :=
  ⟨Settings.valid_default, rfl, rfl⟩

end SlideOverflow.Forecast
