import Mathlib.Data.List.GetD
import Constellation.Go

/-!
# `encoding/base64`: the standard encoding

`KMSClient.CreateKEK` stores a key in the vault as
`base64.StdEncoding.EncodeToString(key)` and `KMSClient.getKEK` reads it back with
`base64.StdEncoding.DecodeString`.  This file models the two functions of Go's standard
library quantum by quantum, as `Encode` and `decodeQuantum` work, and proves that
decoding inverts encoding on byte strings of every length, whatever the padding of the
last quantum (`decodeString_encodeToString`), and that what the decoder accepts is whole
quanta, each giving three bytes less one per padding character (`decodeString_length`).

The decoder is Go's non-strict `StdEncoding`: carriage returns and line feeds are skipped
wherever they stand, the input is read in quanta of four characters, the last quantum
may end in `"="` or `"=="`, and anything else (a character outside the alphabet, a
partial quantum, padding in the first two places of a quantum, data after the padding)
is a `CorruptInputError`.  The input offset that Go's error carries is not modelled.
-/

namespace Constellation.Base64

/-- `encodeStd`, the alphabet of `StdEncoding`. -/
def encodeStd : List Char :=
  "ABCDEFGHIJKLMNOPQRSTUVWXYZabcdefghijklmnopqrstuvwxyz0123456789+/".toList

/-- `StdPadding`. -/
def stdPadding : Char := '='

/-- `enc.encode[i]` for a six-bit `i`. -/
def encode (i : Nat) : Char := encodeStd.getD i stdPadding

/-- `enc.decodeMap[c]`: the index of `c` in the alphabet, `none` for the `0xFF` entries. -/
def decodeMap (c : Char) : Option Nat := encodeStd.indexOf? c

/-- The four characters `Encode` writes for the 24-bit group `val`:
`val>>18&0x3F`, `val>>12&0x3F`, `val>>6&0x3F` and `val&0x3F`. -/
def quantum (val : Nat) : List Char :=
  [encode (val / 262144 % 64), encode (val / 4096 % 64), encode (val / 64 % 64),
    encode (val % 64)]

/-- `StdEncoding.Encode`: full three-byte groups first, then the one or two bytes left,
padded to a whole quantum. -/
def encodeBytes : Bytes → List Char
  | b0 :: b1 :: b2 :: rest =>
    quantum (b0.toNat * 65536 + b1.toNat * 256 + b2.toNat) ++ encodeBytes rest
  | [b0, b1] => (quantum (b0.toNat * 65536 + b1.toNat * 256)).take 3 ++ [stdPadding]
  | [b0] => (quantum (b0.toNat * 65536)).take 2 ++ [stdPadding, stdPadding]
  | [] => []

/-- `StdEncoding.EncodeToString`. -/
def encodeToString (src : Bytes) : String := ⟨encodeBytes src⟩

/-- `CorruptInputError`, without its offset. -/
def corruptInputError : GoError := .msg "illegal base64 data at input byte"

/-- The three bytes `decodeQuantum` makes of four six-bit values:
`byte(val>>16)`, `byte(val>>8)` and `byte(val)`. -/
def bytesOf (s0 s1 s2 s3 : Nat) : Bytes :=
  let val := s0 * 262144 + s1 * 4096 + s2 * 64 + s3
  [UInt8.ofNat (val / 65536 % 256), UInt8.ofNat (val / 256 % 256), UInt8.ofNat (val % 256)]

/-- `decodeQuantum`, run to the end of an input without line breaks: four alphabet
characters give three bytes, and only the last quantum may be padded, to two bytes
(`"xyz="`) or one (`"xy=="`). -/
def decodeChars : List Char → Except GoError Bytes
  | [] => .ok []
  | c0 :: c1 :: c2 :: c3 :: rest =>
    match decodeMap c0, decodeMap c1, decodeMap c2, decodeMap c3 with
    | some s0, some s1, some s2, some s3 => (bytesOf s0 s1 s2 s3 ++ ·) <$> decodeChars rest
    | some s0, some s1, some s2, none =>
      if c3 = stdPadding ∧ rest = [] then .ok ((bytesOf s0 s1 s2 0).take 2)
      else .error corruptInputError
    | some s0, some s1, none, none =>
      if c2 = stdPadding ∧ c3 = stdPadding ∧ rest = [] then .ok ((bytesOf s0 s1 0 0).take 1)
      else .error corruptInputError
    | _, _, _, _ => .error corruptInputError
  | _ => .error corruptInputError

/-- `StdEncoding.DecodeString`: line breaks are skipped, the rest is decoded. -/
def decodeString (s : String) : Except GoError Bytes :=
  decodeChars (s.toList.filter fun c => c != '\r' && c != '\n')

/-! ## The alphabet -/

theorem decodeMap_encode_fin : ∀ i : Fin 64, decodeMap (encode i) = some i.val := by
  decide

theorem decodeMap_encode {i : Nat} (h : i < 64) : decodeMap (encode i) = some i :=
  decodeMap_encode_fin ⟨i, h⟩

@[simp] theorem decodeMap_stdPadding : decodeMap stdPadding = none := by decide

theorem encode_not_newline_fin : ∀ i : Fin 64, (encode i != '\r' && encode i != '\n') = true := by
  decide

/-- No character `Encode` writes is a line break, so `DecodeString` skips none of them. -/
theorem encode_not_newline (i : Nat) : (encode i != '\r' && encode i != '\n') = true := by
  rcases Nat.lt_or_ge i 64 with h | h
  · exact encode_not_newline_fin ⟨i, h⟩
  · rw [encode, List.getD_eq_default _ _ (by simpa [encodeStd] using h)]
    decide

/-! ## Quanta -/

theorem ofNat_mod_eq {n : Nat} {b : UInt8} (h : n % 256 = b.toNat) : UInt8.ofNat (n % 256) = b :=
  UInt8.toNat.inj (by rw [UInt8.toNat_ofNat_of_lt (Nat.mod_lt n (by decide))]; exact h)

theorem bytesOf_quantum (b0 b1 b2 : UInt8) :
    let val := b0.toNat * 65536 + b1.toNat * 256 + b2.toNat
    bytesOf (val / 262144 % 64) (val / 4096 % 64) (val / 64 % 64) (val % 64) = [b0, b1, b2] := by
  have h0 := b0.toNat_lt_size
  have h1 := b1.toNat_lt_size
  have h2 := b2.toNat_lt_size
  simp only [bytesOf, List.cons.injEq, and_true]
  refine ⟨ofNat_mod_eq ?_, ofNat_mod_eq ?_, ofNat_mod_eq ?_⟩ <;> simp only [UInt8.size] at * <;> omega

theorem bytesOf_pair (b0 b1 : UInt8) :
    let val := b0.toNat * 65536 + b1.toNat * 256
    (bytesOf (val / 262144 % 64) (val / 4096 % 64) (val / 64 % 64) 0).take 2 = [b0, b1] := by
  have h0 := b0.toNat_lt_size
  have h1 := b1.toNat_lt_size
  simp only [bytesOf, List.take, List.cons.injEq, and_true]
  refine ⟨ofNat_mod_eq ?_, ofNat_mod_eq ?_⟩ <;> simp only [UInt8.size] at * <;> omega

theorem bytesOf_single (b0 : UInt8) :
    let val := b0.toNat * 65536
    (bytesOf (val / 262144 % 64) (val / 4096 % 64) 0 0).take 1 = [b0] := by
  have h0 := b0.toNat_lt_size
  simp only [bytesOf, List.take, List.cons.injEq, and_true]
  exact ofNat_mod_eq (by simp only [UInt8.size] at *; omega)

theorem decodeChars_quantum (b0 b1 b2 : UInt8) (rest : List Char) :
    decodeChars (quantum (b0.toNat * 65536 + b1.toNat * 256 + b2.toNat) ++ rest) =
      ([b0, b1, b2] ++ ·) <$> decodeChars rest := by
  simp only [quantum, List.cons_append, List.nil_append, decodeChars,
    decodeMap_encode (Nat.mod_lt _ (by decide : 64 > 0)), bytesOf_quantum]
  rfl

theorem decodeChars_pair (b0 b1 : UInt8) :
    decodeChars ((quantum (b0.toNat * 65536 + b1.toNat * 256)).take 3 ++ [stdPadding]) =
      .ok [b0, b1] := by
  simp only [quantum, List.take, List.cons_append, List.nil_append, decodeChars,
    decodeMap_encode (Nat.mod_lt _ (by decide : 64 > 0)), decodeMap_stdPadding, and_self,
    if_true]
  exact congrArg Except.ok (bytesOf_pair b0 b1)

theorem decodeChars_single (b0 : UInt8) :
    decodeChars ((quantum (b0.toNat * 65536)).take 2 ++ [stdPadding, stdPadding]) = .ok [b0] := by
  simp only [quantum, List.take, List.cons_append, List.nil_append, decodeChars,
    decodeMap_encode (Nat.mod_lt _ (by decide : 64 > 0)), decodeMap_stdPadding, and_self,
    if_true]
  exact congrArg Except.ok (bytesOf_single b0)

/-! ## The round trip -/

theorem decodeChars_encodeBytes (src : Bytes) : decodeChars (encodeBytes src) = .ok src := by
  induction src using encodeBytes.induct with
  | case1 b0 b1 b2 rest ih =>
    rw [encodeBytes, decodeChars_quantum, ih]
    rfl
  | case2 b0 b1 => exact decodeChars_pair b0 b1
  | case3 b0 => exact decodeChars_single b0
  | case4 => rfl

theorem mem_encodeBytes {c : Char} {src : Bytes} (hc : c ∈ encodeBytes src) :
    c = stdPadding ∨ ∃ i, c = encode i := by
  induction src using encodeBytes.induct with
  | case1 b0 b1 b2 rest ih =>
    simp only [encodeBytes, quantum, List.cons_append, List.nil_append, List.mem_cons] at hc
    rcases hc with rfl | rfl | rfl | rfl | hc
    any_goals exact .inr ⟨_, rfl⟩
    exact ih hc
  -- the last, padded quantum: two or three characters of the alphabet, then padding
  | case2 | case3 =>
    simp only [encodeBytes, quantum, List.take, List.cons_append, List.nil_append,
      List.mem_cons, List.mem_singleton, List.not_mem_nil, or_false] at hc
    rcases hc with rfl | rfl | rfl | rfl <;> first | exact .inl rfl | exact .inr ⟨_, rfl⟩
  | case4 => simp [encodeBytes] at hc

theorem filter_encodeBytes (src : Bytes) :
    (encodeBytes src).filter (fun c => c != '\r' && c != '\n') = encodeBytes src := by
  refine List.filter_eq_self.2 fun c hc => ?_
  rcases mem_encodeBytes hc with rfl | ⟨i, rfl⟩
  · decide
  · exact encode_not_newline i

/-- `DecodeString` inverts `EncodeToString` on every byte string. -/
theorem decodeString_encodeToString (src : Bytes) :
    decodeString (encodeToString src) = .ok src := by
  show decodeChars ((encodeBytes src).filter _) = _
  rw [filter_encodeBytes, decodeChars_encodeBytes]

/-! ## What the decoder accepts -/

theorem ne_stdPadding_of_decodeMap {c : Char} {s : Nat} (h : decodeMap c = some s) :
    c ≠ stdPadding := by
  rintro rfl
  simp at h

/-- An input that `decodeChars` accepts is whole quanta, and gives three bytes per quantum
less one per padding character. -/
theorem decodeChars_length {cs : List Char} {b : Bytes} (h : decodeChars cs = .ok b) :
    cs.length % 4 = 0 ∧ b.length + cs.count stdPadding = cs.length / 4 * 3 := by
  induction cs using decodeChars.induct generalizing b with
  | case1 =>
    cases h
    simp
  -- a quantum of four characters of the alphabet, then the rest
  | case2 c0 c1 c2 c3 rest s0 s1 s2 s3 h3 h2 h1 h0 ih =>
    simp only [decodeChars, h0, h1, h2, h3] at h
    cases hr : decodeChars rest with
    | error e => rw [hr] at h; cases h
    | ok b' =>
      rw [hr] at h
      cases h
      have := ih hr
      simp [List.count_cons, ne_stdPadding_of_decodeMap h0, ne_stdPadding_of_decodeMap h1,
        ne_stdPadding_of_decodeMap h2, ne_stdPadding_of_decodeMap h3, bytesOf]
      omega
  -- a last quantum `xyz=`
  | case3 c0 c1 c2 c3 rest s0 s1 s2 h3 h2 h1 h0 hpad =>
    obtain ⟨rfl, rfl⟩ := hpad
    simp only [decodeChars, h0, h1, h2, h3, and_self, if_true, Except.ok.injEq] at h
    subst h
    simp [List.count_cons, ne_stdPadding_of_decodeMap h0, ne_stdPadding_of_decodeMap h1,
      ne_stdPadding_of_decodeMap h2, bytesOf]
  -- a last quantum `xy==`
  | case5 c0 c1 c2 c3 rest s0 s1 h3 h2 h1 h0 hpad =>
    obtain ⟨rfl, rfl, rfl⟩ := hpad
    simp only [decodeChars, h0, h1, h2, h3, and_self, if_true, Except.ok.injEq] at h
    subst h
    simp [List.count_cons, ne_stdPadding_of_decodeMap h0, ne_stdPadding_of_decodeMap h1, bytesOf]
  -- padding where the decoder does not accept it
  | case4 _ _ _ _ _ _ _ _ h3 h2 h1 h0 hpad | case6 _ _ _ _ _ _ _ h3 h2 h1 h0 hpad =>
    simp [decodeChars, h0, h1, h2, h3, hpad] at h
  -- a character outside the alphabet
  | case7 c0 c1 c2 c3 rest =>
    simp only [decodeChars] at h
    cases h
  -- a partial quantum
  | case8 t hnil hquantum =>
    rcases t with _ | ⟨_, _ | ⟨_, _ | ⟨_, _ | ⟨_, _⟩⟩⟩⟩
    · exact absurd rfl hnil
    any_goals simp [decodeChars] at h
    exact (hquantum _ _ _ _ _ rfl).elim

/-- What `DecodeString` accepts is, once its line breaks are dropped, whole quanta of four
characters; the bytes it returns are three per quantum, less one per padding character. -/
theorem decodeString_length {s : String} {b : Bytes} (h : decodeString s = .ok b) :
    let cs := s.toList.filter fun c => c != '\r' && c != '\n'
    cs.length % 4 = 0 ∧ b.length + cs.count stdPadding = cs.length / 4 * 3 :=
  decodeChars_length h

theorem decodeString_length_padded :
    decodeString "QU\nI=" = .ok [65, 66] ∧
      let cs := "QU\nI=".toList.filter fun c => c != '\r' && c != '\n'
      cs.length % 4 = 0 ∧ ([65, 66] : Bytes).length + cs.count stdPadding = cs.length / 4 * 3 :=
  ⟨rfl, decodeString_length rfl⟩

end Constellation.Base64
