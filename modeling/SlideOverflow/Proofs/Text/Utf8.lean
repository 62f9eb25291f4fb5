import SlideOverflow.Text.Utf8

/-! Decoding is the inverse of the standard encoding: a row of octets is decoded if and only if some
text is encoded by it, and that text is what comes of it. -/
namespace SlideOverflow.Text.Utf8

def octets (c : Char) : List Nat := (String.utf8EncodeChar c).map UInt8.toNat

def encode (text : List Char) : List Nat := text.flatMap octets

private def octetsOf (v : Nat) : List Nat :=
  if v ≤ 0x7F then [v]
  else if v ≤ 0x7FF then [v / 64 + 0xC0, v % 64 + 0x80]
  else if v ≤ 0xFFFF then [v / 4096 + 0xE0, v / 64 % 64 + 0x80, v % 64 + 0x80]
  else [v / 262144 + 0xF0, v / 4096 % 64 + 0x80, v / 64 % 64 + 0x80, v % 64 + 0x80]

private theorem octets_eq (c : Char) : octets c = octetsOf c.toNat := by
  have hvalid := c.valid
  have hv : c.val.toNat = c.toNat := rfl
  simp only [UInt32.isValidChar, Nat.isValidChar, hv] at hvalid
  simp only [octets, String.utf8EncodeChar, octetsOf, hv]
  split
  · simp; omega
  · split
    · simp; omega
    · split
      · simp; omega
      · simp; omega

private theorem toNat_ofNat {v : Nat} (h : v.isValidChar) : (Char.ofNat v).toNat = v := by
  rw [Char.ofNat, dif_pos h]
  rfl

private theorem octets_ofNat {v : Nat} (h : v.isValidChar) :
    octets (Char.ofNat v) = octetsOf v := by
  rw [octets_eq, toNat_ofNat h]

/-! ### Codes from octets -/

section Codes

variable {b b₁ b₂ b₃ : Nat}

private theorem octetsOf_two (hb : 0xC2 ≤ b) (hb' : b < 0xE0) (h₁ : 0x80 ≤ b₁) (h₁' : b₁ ≤ 0xBF) :
    let v := (b - 0xC0) * 64 + b₁ % 64
    v.isValidChar ∧ octetsOf v = [b, b₁] := by
  intro v
  have hv : v = (b - 0xC0) * 64 + (b₁ - 0x80) := by omega
  refine ⟨.inl (by omega), ?_⟩
  rw [octetsOf, if_neg (by omega), if_pos (by omega)]
  simp only [List.cons.injEq, and_true]
  omega

/-- No code is written with more octets than it needs, and none lies between the two planes of
codes that stand for no character. -/
private theorem octetsOf_three (hb : 0xE0 ≤ b) (hb' : b < 0xF0)
    (h₁ : (if b = 0xE0 then 0xA0 else 0x80) ≤ b₁) (h₁' : b₁ ≤ if b = 0xED then 0x9F else 0xBF)
    (h₂ : 0x80 ≤ b₂) (h₂' : b₂ ≤ 0xBF) :
    let v := ((b - 0xE0) * 64 + b₁ % 64) * 64 + b₂ % 64
    v.isValidChar ∧ octetsOf v = [b, b₁, b₂] := by
  intro v
  have hlow : 0x80 ≤ b₁ ∧ (b = 0xE0 → 0xA0 ≤ b₁) := by split at h₁ <;> omega
  have hhigh : b₁ ≤ 0xBF ∧ (b = 0xED → b₁ ≤ 0x9F) := by split at h₁' <;> omega
  have hv : v = (b - 0xE0) * 4096 + (b₁ - 0x80) * 64 + (b₂ - 0x80) := by omega
  refine ⟨?_, ?_⟩
  · simp only [Nat.isValidChar]
    omega
  · rw [octetsOf, if_neg (by omega), if_neg (by omega), if_pos (by omega)]
    simp only [List.cons.injEq, and_true]
    omega

private theorem octetsOf_four (hb : 0xF0 ≤ b) (hb' : b ≤ 0xF4)
    (h₁ : (if b = 0xF0 then 0x90 else 0x80) ≤ b₁) (h₁' : b₁ ≤ if b = 0xF4 then 0x8F else 0xBF)
    (h₂ : 0x80 ≤ b₂) (h₂' : b₂ ≤ 0xBF) (h₃ : 0x80 ≤ b₃) (h₃' : b₃ ≤ 0xBF) :
    let v := (((b - 0xF0) * 64 + b₁ % 64) * 64 + b₂ % 64) * 64 + b₃ % 64
    v.isValidChar ∧ octetsOf v = [b, b₁, b₂, b₃] := by
  intro v
  have hlow : 0x80 ≤ b₁ ∧ (b = 0xF0 → 0x90 ≤ b₁) := by split at h₁ <;> omega
  have hhigh : b₁ ≤ 0xBF ∧ (b = 0xF4 → b₁ ≤ 0x8F) := by split at h₁' <;> omega
  have hv : v = (b - 0xF0) * 262144 + (b₁ - 0x80) * 4096 + (b₂ - 0x80) * 64 + (b₃ - 0x80) := by
    omega
  refine ⟨?_, ?_⟩
  · simp only [Nat.isValidChar]
    omega
  · rw [octetsOf, if_neg (by omega), if_neg (by omega), if_neg (by omega)]
    simp only [List.cons.injEq, and_true]
    omega

end Codes

/-! ### The first octet of a character -/

section Lead

variable {b : Nat}

private theorem lead?_ascii (h : b < 0x80) : lead? b = some (0, 0x80, 0xBF, b) := if_pos h

private theorem lead?_two (hlo : 0xC2 ≤ b) (hhi : b < 0xE0) :
    lead? b = some (1, 0x80, 0xBF, b - 0xC0) := by
  rw [lead?, if_neg (by omega), if_neg (by omega), if_pos hhi]

private theorem lead?_three (hlo : 0xE0 ≤ b) (hhi : b < 0xF0) :
    lead? b = some (2, if b = 0xE0 then 0xA0 else 0x80, if b = 0xED then 0x9F else 0xBF,
      b - 0xE0) := by
  rw [lead?, if_neg (by omega), if_neg (by omega), if_neg (by omega)]
  simp only [beq_iff_eq]
  split
  · next h => simp [h]
  · next h =>
    split
    · next h' => simp [h']
    · simp

private theorem lead?_four (hlo : 0xF0 ≤ b) (hhi : b ≤ 0xF4) :
    lead? b = some (3, if b = 0xF0 then 0x90 else 0x80, if b = 0xF4 then 0x8F else 0xBF,
      b - 0xF0) := by
  rw [lead?, if_neg (by omega), if_neg (by omega), if_neg (by omega)]
  simp only [beq_iff_eq]
  rw [if_neg (by omega), if_neg (by omega), if_neg (by omega)]
  split
  · next h => simp [h]
  · next h =>
    split
    · next h' => simp [Nat.ne_of_lt h']
    · next h' => simp [show b = 0xF4 by omega]

private theorem lead?_none (h : 0x80 ≤ b ∧ b < 0xC2 ∨ 0xF5 ≤ b) : lead? b = none := by
  rw [lead?]
  simp only [beq_iff_eq]
  rcases h with ⟨hlo, hhi⟩ | h
  · rw [if_neg (by omega), if_pos hhi]
  · repeat rw [if_neg (by omega)]

end Lead

/-! ### The octets of a character, one by one -/

section Steps

variable {low high code begin first pos b n : Nat} {bs : List Nat} {text : List Char}

private theorem decodeFrom_ascii (h : b < 0x80) :
    decodeFrom 0 low high code begin first pos (b :: bs) =
      (decodeFrom 0 0 0 0 0 0 (pos + 1) bs).map (Char.ofNat b :: ·) := by
  rw [decodeFrom, if_pos (by rfl), lead?_ascii h]
  rfl

private theorem decodeFrom_lead {least most part : Nat}
    (h : lead? b = some (n + 1, least, most, part)) :
    decodeFrom 0 low high code begin first pos (b :: bs) =
      decodeFrom (n + 1) least most part pos b (pos + 1) bs := by
  rw [decodeFrom, if_pos (by rfl), h]
  rfl

private theorem decodeFrom_last (hlo : low ≤ b) (hhi : b ≤ high) :
    decodeFrom 1 low high code begin first pos (b :: bs) =
      (decodeFrom 0 0 0 0 0 0 (pos + 1) bs).map (Char.ofNat (code * 64 + b % 64) :: ·) := by
  rw [decodeFrom, if_neg (by decide), if_pos (by simp [hlo, hhi])]
  rfl

private theorem decodeFrom_more (hlo : low ≤ b) (hhi : b ≤ high) :
    decodeFrom (n + 2) low high code begin first pos (b :: bs) =
      decodeFrom (n + 1) 0x80 0xBF (code * 64 + b % 64) begin first (pos + 1) bs := by
  rw [decodeFrom, if_neg (by simp), if_pos (by simp [hlo, hhi])]
  simp

/-- Where an octet is owed, one within the bounds follows. -/
private theorem exists_owed (h : decodeFrom (n + 1) low high code begin first pos bs = .ok text) :
    ∃ b rest, bs = b :: rest ∧ low ≤ b ∧ b ≤ high := by
  cases bs with
  | nil => cases h
  | cons b rest =>
    by_cases hb : low ≤ b ∧ b ≤ high
    · exact ⟨b, rest, rfl, hb⟩
    · rw [decodeFrom, if_neg (by simp), if_neg (by simpa using hb)] at h
      cases h

end Steps

/-! ### Whole texts -/

private theorem map_cons_eq_ok_iff {o : Except Fault (List Char)} {d : Char} {text : List Char} :
    o.map (d :: ·) = .ok text ↔ ∃ cs, text = d :: cs ∧ o = .ok cs := by
  cases o <;> simp [Except.map, eq_comm]

section Characters

variable {low high code begin first pos : Nat} {bs : List Nat} {text : List Char}

/-- The octets of a character give that character. -/
private theorem decodeFrom_octets (c : Char) (rest : List Nat) :
    ∃ pos', decodeFrom 0 low high code begin first pos (octets c ++ rest) =
      (decodeFrom 0 0 0 0 0 0 pos' rest).map (c :: ·) := by
  have hvalid : c.toNat.isValidChar := c.valid
  rw [octets_eq]
  have hc : c = Char.ofNat c.toNat := (Char.ofNat_toNat c).symm
  generalize c.toNat = v at hvalid hc ⊢
  simp only [Nat.isValidChar] at hvalid
  subst hc
  rw [octetsOf]
  split
  · exact ⟨_, decodeFrom_ascii (by omega)⟩
  · split
    · have hcode : (v / 64 + 0xC0 - 0xC0) * 64 + (v % 64 + 0x80) % 64 = v := by omega
      refine ⟨pos + 1 + 1, ?_⟩
      simp only [List.cons_append, List.nil_append]
      rw [decodeFrom_lead (lead?_two (by omega) (by omega)),
        decodeFrom_last (by omega) (by omega), hcode]
    · split
      · have hcode : ((v / 4096 + 0xE0 - 0xE0) * 64 + (v / 64 % 64 + 0x80) % 64) * 64 +
            (v % 64 + 0x80) % 64 = v := by omega
        refine ⟨pos + 1 + 1 + 1, ?_⟩
        simp only [List.cons_append, List.nil_append]
        rw [decodeFrom_lead (lead?_three (by omega) (by omega)),
          decodeFrom_more (by split <;> omega) (by split <;> omega),
          decodeFrom_last (by omega) (by omega), hcode]
      · have hcode : (((v / 262144 + 0xF0 - 0xF0) * 64 + (v / 4096 % 64 + 0x80) % 64) * 64 +
            (v / 64 % 64 + 0x80) % 64) * 64 + (v % 64 + 0x80) % 64 = v := by omega
        refine ⟨pos + 1 + 1 + 1 + 1, ?_⟩
        simp only [List.cons_append, List.nil_append]
        rw [decodeFrom_lead (lead?_four (by omega) (by omega)),
          decodeFrom_more (by split <;> omega) (by split <;> omega),
          decodeFrom_more (by omega) (by omega), decodeFrom_last (by omega) (by omega), hcode]

/-- What is decoded begins with a character and its octets, unless there are none. -/
private theorem decodeFrom_cases (h : decodeFrom 0 low high code begin first pos bs = .ok text) :
    bs = [] ∧ text = [] ∨ ∃ c cs rest pos', bs = octets c ++ rest ∧ text = c :: cs ∧
      decodeFrom 0 0 0 0 0 0 pos' rest = .ok cs := by
  cases bs with
  | nil =>
    cases h
    exact .inl ⟨rfl, rfl⟩
  | cons b bs =>
    refine .inr ?_
    have hgives {v : Nat} {own rest : List Nat} {pos' : Nat}
        (hown : v.isValidChar ∧ octetsOf v = own)
        (h : (decodeFrom 0 0 0 0 0 0 pos' rest).map (Char.ofNat v :: ·) = .ok text) :
        ∃ c cs rest' pos', own ++ rest = octets c ++ rest' ∧ text = c :: cs ∧
          decodeFrom 0 0 0 0 0 0 pos' rest' = .ok cs := by
      obtain ⟨cs, hcs, hrest⟩ := map_cons_eq_ok_iff.mp h
      exact ⟨_, cs, rest, pos', by rw [octets_ofNat hown.1, hown.2], hcs, hrest⟩
    by_cases hascii : b < 0x80
    · rw [decodeFrom_ascii hascii] at h
      exact @hgives _ [b] _ _ ⟨.inl (by omega), if_pos (by omega)⟩ h
    · by_cases htwo : 0xC2 ≤ b ∧ b < 0xE0
      · rw [decodeFrom_lead (lead?_two htwo.1 htwo.2)] at h
        obtain ⟨b₁, rest, rfl, hlo, hhi⟩ := exists_owed h
        rw [decodeFrom_last hlo hhi] at h
        exact hgives (octetsOf_two htwo.1 htwo.2 hlo hhi) h
      · by_cases hthree : 0xE0 ≤ b ∧ b < 0xF0
        · rw [decodeFrom_lead (lead?_three hthree.1 hthree.2)] at h
          obtain ⟨b₁, rest, rfl, hlo, hhi⟩ := exists_owed h
          rw [decodeFrom_more hlo hhi] at h
          obtain ⟨b₂, rest, rfl, hlo', hhi'⟩ := exists_owed h
          rw [decodeFrom_last hlo' hhi'] at h
          exact hgives (octetsOf_three hthree.1 hthree.2 hlo hhi hlo' hhi') h
        · by_cases hfour : 0xF0 ≤ b ∧ b ≤ 0xF4
          · rw [decodeFrom_lead (lead?_four hfour.1 hfour.2)] at h
            obtain ⟨b₁, rest, rfl, hlo, hhi⟩ := exists_owed h
            rw [decodeFrom_more hlo hhi] at h
            obtain ⟨b₂, rest, rfl, hlo', hhi'⟩ := exists_owed h
            rw [decodeFrom_more hlo' hhi'] at h
            obtain ⟨b₃, rest, rfl, hlo'', hhi''⟩ := exists_owed h
            rw [decodeFrom_last hlo'' hhi''] at h
            exact hgives (octetsOf_four hfour.1 hfour.2 hlo hhi hlo' hhi' hlo'' hhi'') h
          · rw [decodeFrom, if_pos (by rfl), lead?_none (by omega)] at h
            cases h

private theorem decodeFrom_eq_ok_iff :
    decodeFrom 0 low high code begin first pos bs = .ok text ↔ bs = encode text := by
  induction text generalizing low high code begin first pos bs with
  | nil =>
    constructor
    · intro h
      rcases decodeFrom_cases h with ⟨rfl, -⟩ | ⟨c, cs, rest, pos', -, htext, -⟩
      · rfl
      · cases htext
    · rintro rfl
      rfl
  | cons c cs ih =>
    constructor
    · intro h
      rcases decodeFrom_cases h with ⟨-, htext⟩ | ⟨d, ds, rest, pos', rfl, htext, hrest⟩
      · cases htext
      · cases htext
        rw [ih.mp hrest]
        rfl
    · rintro rfl
      obtain ⟨pos', h⟩ := @decodeFrom_octets low high code begin first pos c (encode cs)
      exact h.trans (map_cons_eq_ok_iff.mpr ⟨cs, rfl, ih.mpr rfl⟩)

end Characters

/-- Octets are decoded if and only if they encode a text, and that text is what comes of them. -/
theorem decode_eq_ok_iff {bs : List Nat} {text : List Char} :
    decode bs = .ok text ↔ bs = encode text :=
  decodeFrom_eq_ok_iff

theorem encode_injective {text other : List Char} (h : encode text = encode other) :
    text = other :=
  Except.ok.inj ((decode_eq_ok_iff.mpr rfl).symm.trans (decode_eq_ok_iff.mpr h))

end SlideOverflow.Text.Utf8
