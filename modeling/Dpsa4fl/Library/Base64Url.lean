-- SUMMARY: Unpadded base64url of RFC 4648 with a strict decoder, and the two directions of its round trip.
import Mathlib.Data.List.Basic

/-!
# Unpadded base64url

The encoder and the decoder of RFC 4648 section 5 without padding. The decoder
is strict: a symbol outside the alphabet, padding, a length that is one more than
a multiple of four, and a last symbol whose unused bits are not zero are refused.
Strictness is what makes the code a bijection between byte lists and accepted
strings, see `decode_encode` and `encode_of_decode`.
-/

namespace Base64Url

inductive DecodeError where
  | invalidByte (symbol : Char)
  | invalidPadding
  | invalidLength
  | invalidLastSymbol (symbol : Char)
deriving DecidableEq, Repr

/-! ## The alphabet -/

def alphabet : List Char :=
  "ABCDEFGHIJKLMNOPQRSTUVWXYZabcdefghijklmnopqrstuvwxyz0123456789-_".toList

/-- The symbol of a six-bit value. -/
def symbol (n : Nat) : Char := alphabet.getD n 'A'

/-- The six-bit value of a symbol. -/
def value (c : Char) : Except DecodeError Nat :=
  match alphabet.idxOf? c with
  | some n => .ok n
  | none => .error (.invalidByte c)

/-- The same where there may be padding, which ends the text. Elsewhere that is a
symbol outside the alphabet. -/
def valueAt (last : Bool) (c : Char) : Except DecodeError Nat :=
  if last && c = '=' then .error .invalidPadding else value c

theorem value_symbol {n : Nat} (h : n < 64) : value (symbol n) = .ok n := by
  have hall : ∀ i : Fin 64, alphabet.idxOf? (symbol i.val) = some i.val := by decide +kernel
  simp only [value, hall ⟨n, h⟩]

theorem symbol_of_value {c : Char} {n : Nat} (h : value c = .ok n) : n < 64 ∧ symbol n = c := by
  unfold value at h
  split at h
  · rename_i m hm
    cases h
    obtain ⟨hlt, hc, -⟩ := List.idxOf?_eq_some_iff.mp hm
    have hlen : alphabet.length = 64 := by decide
    refine ⟨hlen ▸ hlt, ?_⟩
    simpa [symbol, List.getD_eq_getElem?_getD, List.getElem?_eq_getElem hlt] using hc
  · cases h

theorem valueAt_symbol (last : Bool) {n : Nat} (h : n < 64) : valueAt last (symbol n) = .ok n := by
  have hall : ∀ i : Fin 64, symbol i.val ≠ '=' := by decide +kernel
  simp [valueAt, hall ⟨n, h⟩, value_symbol h]

theorem value_of_valueAt {last : Bool} {c : Char} {n : Nat} (h : valueAt last c = .ok n) :
    value c = .ok n := by
  unfold valueAt at h
  split at h
  · cases h
  · exact h

/-! ## Encoder and decoder -/

def encodeChars : List UInt8 → List Char
  | [] => []
  | [a] => [symbol (a.toNat / 4), symbol (a.toNat % 4 * 16)]
  | [a, b] =>
    [symbol (a.toNat / 4), symbol (a.toNat % 4 * 16 + b.toNat / 16), symbol (b.toNat % 16 * 4)]
  | a :: b :: c :: rest =>
    symbol (a.toNat / 4) :: symbol (a.toNat % 4 * 16 + b.toNat / 16) ::
      symbol (b.toNat % 16 * 4 + c.toNat / 64) :: symbol (c.toNat % 64) :: encodeChars rest

def decodeChars : List Char → Except DecodeError (List UInt8)
  | [] => .ok []
  | [_] => .error .invalidLength
  | [c₀, c₁] => do
    let x₀ ← value c₀
    let x₁ ← value c₁
    -- the low four bits belong to no byte
    if x₁ % 16 = 0 then .ok [.ofNat (x₀ * 4 + x₁ / 16)] else .error (.invalidLastSymbol c₁)
  | [c₀, c₁, c₂] => do
    let x₀ ← value c₀
    let x₁ ← value c₁
    let x₂ ← valueAt true c₂
    if x₂ % 4 = 0 then
      .ok [.ofNat (x₀ * 4 + x₁ / 16), .ofNat (x₁ % 16 * 16 + x₂ / 4)]
    else .error (.invalidLastSymbol c₂)
  | c₀ :: c₁ :: c₂ :: c₃ :: rest => do
    let x₀ ← value c₀
    let x₁ ← value c₁
    let x₂ ← valueAt (rest.isEmpty && c₃ = '=') c₂
    let x₃ ← valueAt rest.isEmpty c₃
    let bytes ← decodeChars rest
    .ok (.ofNat (x₀ * 4 + x₁ / 16) :: .ofNat (x₁ % 16 * 16 + x₂ / 4) ::
      .ofNat (x₂ % 4 * 64 + x₃) :: bytes)

def encode (bytes : List UInt8) : String := String.ofList (encodeChars bytes)

/-- A length that is one more than a multiple of four is refused first. Of such a text,
the last symbol may be the only wrong one. -/
def checkLength (cs : List Char) : Except DecodeError Unit :=
  if cs.length % 4 = 1 then do
    let last := cs.getLastD '='
    if last ≠ '=' then discard (value last)
    .error .invalidLength
  else .ok ()

def decode (s : String) : Except DecodeError (List UInt8) := do
  checkLength s.toList
  decodeChars s.toList

/-! ## Round trips -/

private theorem ofNat_eq {b : UInt8} {n : Nat} (h : n = b.toNat) : UInt8.ofNat n = b := by
  subst h
  exact UInt8.ofNat_toNat

private theorem toNat_ofNat {n : Nat} (h : n < 256) : (UInt8.ofNat n).toNat = n :=
  UInt8.toNat_ofNat_of_lt' h

theorem decodeChars_encodeChars (bytes : List UInt8) :
    decodeChars (encodeChars bytes) = .ok bytes := by
  induction bytes using encodeChars.induct with
  | case1 => rfl
  | case2 a =>
    have ha := a.toNat_lt
    simp only [encodeChars, decodeChars, value_symbol (show a.toNat / 4 < 64 by omega),
      value_symbol (show a.toNat % 4 * 16 < 64 by omega), bind, Except.bind]
    rw [if_pos (by omega), ofNat_eq (b := a) (by omega)]
  | case3 a b =>
    have ha := a.toNat_lt
    have hb := b.toNat_lt
    simp only [encodeChars, decodeChars, value_symbol (show a.toNat / 4 < 64 by omega),
      value_symbol (show a.toNat % 4 * 16 + b.toNat / 16 < 64 by omega),
      valueAt_symbol _ (show b.toNat % 16 * 4 < 64 by omega), bind, Except.bind]
    rw [if_pos (by omega), ofNat_eq (b := a) (by omega), ofNat_eq (b := b) (by omega)]
  | case4 a b c rest ih =>
    have ha := a.toNat_lt
    have hb := b.toNat_lt
    have hc := c.toNat_lt
    simp only [encodeChars, decodeChars, value_symbol (show a.toNat / 4 < 64 by omega),
      value_symbol (show a.toNat % 4 * 16 + b.toNat / 16 < 64 by omega),
      valueAt_symbol _ (show b.toNat % 16 * 4 + c.toNat / 64 < 64 by omega),
      valueAt_symbol _ (show c.toNat % 64 < 64 by omega), bind, Except.bind, ih]
    rw [ofNat_eq (b := a) (by omega), ofNat_eq (b := b) (by omega), ofNat_eq (b := c) (by omega)]

private theorem bind_eq_ok {ε α β : Type} {x : Except ε α} {f : α → Except ε β} {b : β}
    (h : (x >>= f) = .ok b) : ∃ a, x = .ok a ∧ f a = .ok b := by
  cases x with
  | error e => cases h
  | ok a => exact ⟨a, rfl, h⟩

theorem encodeChars_of_decodeChars {cs : List Char} {bytes : List UInt8}
    (h : decodeChars cs = .ok bytes) : encodeChars bytes = cs := by
  induction cs using decodeChars.induct generalizing bytes with
  | case1 => cases h; rfl
  | case2 c => cases h
  | case3 c₀ c₁ =>
    rw [decodeChars] at h
    obtain ⟨x₀, h₀, h⟩ := bind_eq_ok h
    obtain ⟨x₁, h₁, h⟩ := bind_eq_ok h
    obtain ⟨hx₀, hs₀⟩ := symbol_of_value h₀
    obtain ⟨hx₁, hs₁⟩ := symbol_of_value h₁
    split at h
    · cases h
      have e₀ : (x₀ * 4 + x₁ / 16) / 4 = x₀ := by omega
      have e₁ : (x₀ * 4 + x₁ / 16) % 4 * 16 = x₁ := by omega
      rw [encodeChars, toNat_ofNat (by omega), e₀, e₁, hs₀, hs₁]
    · cases h
  | case4 c₀ c₁ c₂ =>
    rw [decodeChars] at h
    obtain ⟨x₀, h₀, h⟩ := bind_eq_ok h
    obtain ⟨x₁, h₁, h⟩ := bind_eq_ok h
    obtain ⟨x₂, h₂, h⟩ := bind_eq_ok h
    obtain ⟨hx₀, hs₀⟩ := symbol_of_value h₀
    obtain ⟨hx₁, hs₁⟩ := symbol_of_value h₁
    obtain ⟨hx₂, hs₂⟩ := symbol_of_value (value_of_valueAt h₂)
    split at h
    · cases h
      have e₀ : (x₀ * 4 + x₁ / 16) / 4 = x₀ := by omega
      have e₁ : (x₀ * 4 + x₁ / 16) % 4 * 16 + (x₁ % 16 * 16 + x₂ / 4) / 16 = x₁ := by omega
      have e₂ : (x₁ % 16 * 16 + x₂ / 4) % 16 * 4 = x₂ := by omega
      rw [encodeChars, toNat_ofNat (by omega), toNat_ofNat (by omega), e₀, e₁, e₂, hs₀, hs₁, hs₂]
    · cases h
  | case5 c₀ c₁ c₂ c₃ rest ih =>
    rw [decodeChars] at h
    obtain ⟨x₀, h₀, h⟩ := bind_eq_ok h
    obtain ⟨x₁, h₁, h⟩ := bind_eq_ok h
    obtain ⟨x₂, h₂, h⟩ := bind_eq_ok h
    obtain ⟨x₃, h₃, h⟩ := bind_eq_ok h
    obtain ⟨tail, htail, h⟩ := bind_eq_ok h
    obtain ⟨hx₀, hs₀⟩ := symbol_of_value h₀
    obtain ⟨hx₁, hs₁⟩ := symbol_of_value h₁
    obtain ⟨hx₂, hs₂⟩ := symbol_of_value (value_of_valueAt h₂)
    obtain ⟨hx₃, hs₃⟩ := symbol_of_value (value_of_valueAt h₃)
    cases h
    have e₀ : (x₀ * 4 + x₁ / 16) / 4 = x₀ := by omega
    have e₁ : (x₀ * 4 + x₁ / 16) % 4 * 16 + (x₁ % 16 * 16 + x₂ / 4) / 16 = x₁ := by omega
    have e₂ : (x₁ % 16 * 16 + x₂ / 4) % 16 * 4 + (x₂ % 4 * 64 + x₃) / 64 = x₂ := by omega
    have e₃ : (x₂ % 4 * 64 + x₃) % 64 = x₃ := by omega
    rw [encodeChars, toNat_ofNat (by omega), toNat_ofNat (by omega), toNat_ofNat (by omega),
      e₀, e₁, e₂, e₃, hs₀, hs₁, hs₂, hs₃, ih htail]

@[simp] theorem length_encodeChars (bytes : List UInt8) :
    (encodeChars bytes).length = (bytes.length * 4 + 2) / 3 := by
  induction bytes using encodeChars.induct with
  | case1 => simp [encodeChars]
  | case2 a => simp [encodeChars]
  | case3 a b => simp [encodeChars]
  | case4 a b c rest ih =>
    simp only [encodeChars, List.length_cons, ih]
    omega

theorem checkLength_encodeChars (bytes : List UInt8) : checkLength (encodeChars bytes) = .ok () := by
  rw [checkLength, length_encodeChars, if_neg (by omega)]

/-- Decoding undoes encoding, for every byte list. -/
@[simp] theorem decode_encode (bytes : List UInt8) : decode (encode bytes) = .ok bytes := by
  simp only [decode, encode, String.toList_ofList, checkLength_encodeChars,
    decodeChars_encodeChars]
  rfl

/-- The decoder accepts no other string for a byte list than its encoding. -/
theorem encode_of_decode {s : String} {bytes : List UInt8} (h : decode s = .ok bytes) :
    encode bytes = s := by
  obtain ⟨-, -, hchars⟩ := bind_eq_ok h
  rw [encode, encodeChars_of_decodeChars hchars, String.ofList_toList]

example : encode [0x4d, 0x61] = "TWE" ∧ decode "TWF" = .error (.invalidLastSymbol 'F') ∧
    decode "TWE=" = .error .invalidPadding := by decide

/-! ## The encoded string -/

theorem symbol_mem_alphabet (n : Nat) : symbol n ∈ alphabet := by
  unfold symbol
  rw [List.getD_eq_getElem?_getD]
  cases h : alphabet[n]? with
  | none => decide
  | some c => exact List.mem_of_getElem? h

theorem mem_alphabet_of_mem_encodeChars {bytes : List UInt8} :
    ∀ c ∈ encodeChars bytes, c ∈ alphabet := by
  induction bytes using encodeChars.induct with
  | case1 => simp [encodeChars]
  | case2 a => simp [encodeChars, symbol_mem_alphabet]
  | case3 a b => simp [encodeChars, symbol_mem_alphabet]
  | case4 a b c rest ih => simpa [encodeChars, symbol_mem_alphabet] using ih

/-- Two bytes after the last group of three leave the low two bits of the last
symbol unused. -/
theorem getLast?_encodeChars {bytes : List UInt8} (h : bytes.length % 3 = 2) :
    ∃ n < 16, (encodeChars bytes).getLast? = some (symbol (n * 4)) := by
  induction bytes using encodeChars.induct with
  | case1 => simp at h
  | case2 a => simp at h
  | case3 a b => exact ⟨b.toNat % 16, Nat.mod_lt _ (by decide), by simp [encodeChars]⟩
  | case4 a b c rest ih =>
    have hrest : rest.length % 3 = 2 := by
      simp only [List.length_cons] at h
      omega
    obtain ⟨n, hn, hlast⟩ := ih hrest
    refine ⟨n, hn, ?_⟩
    simp only [encodeChars, List.getLast?_cons, hlast, Option.getD_some]

theorem length_le_utf8 (cs : List Char) :
    cs.length ≤ (String.ofList cs).toUTF8.data.toList.length := by
  have hutf8 : (String.ofList cs).toUTF8.data.toList = cs.flatMap String.utf8EncodeChar := by
    simp [String.toUTF8, List.utf8Encode]
  rw [hutf8]
  clear hutf8
  induction cs with
  | nil => simp
  | cons c cs ih =>
    have := c.utf8Size_pos
    rw [List.flatMap_cons, List.length_append, String.length_utf8EncodeChar, List.length_cons]
    omega

/-- An encoded string is longer than what it encodes, so that it is not the same bytes. -/
theorem toUTF8_encode_eq_iff {bytes : List UInt8} :
    (encode bytes).toUTF8.data.toList = bytes ↔ bytes = [] := by
  constructor
  · intro h
    by_contra hne
    have hpos := List.length_pos_iff.mpr hne
    have hle := length_le_utf8 (encodeChars bytes)
    rw [← encode, h, length_encodeChars] at hle
    omega
  · rintro rfl
    rfl

end Base64Url
