/-
This file models the packing and unpacking of unsigned integers in network byte order.
-/

namespace NetworkTools.Library

/-- A format code fixes the size of a field. -/
inductive StructFormat where
  | ubyte
  | ushort
deriving DecidableEq

def StructFormat.size : StructFormat → Nat
  | ubyte => 1
  | ushort => 2

/-- A field holds the values below its limit. -/
def StructFormat.limit : StructFormat → Nat
  | ubyte => 256
  | ushort => 65536

/-- The packer refuses a value that its field cannot hold. -/
inductive StructError where
  | outOfRange (format : StructFormat) (value : Int)
deriving DecidableEq

/-- The high byte comes first. -/
def bigEndian : Nat → Nat → List UInt8
  | 0, _ => []
  | size + 1, value => bigEndian size (value / 256) ++ [UInt8.ofNat value]

def packField (format : StructFormat) (value : Int) : Except StructError (List UInt8) :=
  if 0 ≤ value ∧ value.toNat < format.limit then .ok (bigEndian format.size value.toNat)
  else .error (.outOfRange format value)

/-- The first field that does not fit decides the error. -/
def pack : List (StructFormat × Int) → Except StructError (List UInt8)
  | [] => .ok []
  | (format, value) :: rest => do
      let bytes ← packField format value
      let others ← pack rest
      return bytes ++ others

/-- The value of a field reads its bytes from the high end. -/
def ofBigEndian (bytes : List UInt8) : Nat :=
  bytes.foldl (fun value byte => value * 256 + byte.toNat) 0

def calcsize : List StructFormat → Nat
  | [] => 0
  | format :: rest => format.size + calcsize rest

def unpackFields : List StructFormat → List UInt8 → List Nat
  | [], _ => []
  | format :: rest, bytes =>
      ofBigEndian (bytes.take format.size) :: unpackFields rest (bytes.drop format.size)

/-- The unpacker refuses a buffer of another size. -/
structure UnpackError where
  required : Nat
deriving DecidableEq

def unpack (formats : List StructFormat) (bytes : List UInt8) :
    Except UnpackError (List Nat) :=
  if bytes.length = calcsize formats then .ok (unpackFields formats bytes)
  else .error ⟨calcsize formats⟩

theorem packField_inRange (format : StructFormat) (value : Nat)
    (inside : value < format.limit) :
    packField format value = .ok (bigEndian format.size value) := by
  unfold packField
  rw [Int.toNat_natCast, if_pos ⟨Int.natCast_nonneg value, inside⟩]

/-- A field in range goes in front of the packed rest. -/
theorem pack_cons {format : StructFormat} {value : Nat} {rest : List (StructFormat × Int)}
    {others : List UInt8} (inside : value < format.limit) (packed : pack rest = .ok others) :
    pack ((format, (value : Int)) :: rest) = .ok (bigEndian format.size value ++ others) := by
  rw [pack, packField_inRange format value inside, packed]
  rfl

theorem bigEndian_one (value : UInt8) : bigEndian 1 value.toNat = [value] := by
  simp [bigEndian]

theorem bigEndian_two (value : Nat) :
    bigEndian 2 value = [UInt8.ofNat (value / 256), UInt8.ofNat value] := by
  simp [bigEndian]

theorem bigEndian_length (size value : Nat) : (bigEndian size value).length = size := by
  induction size generalizing value with
  | zero => rfl
  | succ size ih => rw [bigEndian, List.length_append, ih, List.length_singleton]

/-- A field in range survives the round trip. -/
theorem ofBigEndian_bigEndian (format : StructFormat) (value : Nat)
    (inside : value < format.limit) : ofBigEndian (bigEndian format.size value) = value := by
  cases format with
  | ubyte =>
      simp only [StructFormat.limit] at inside
      simp only [StructFormat.size, bigEndian, List.nil_append, ofBigEndian, List.foldl_cons,
        List.foldl_nil, UInt8.toNat_ofNat']
      omega
  | ushort =>
      simp only [StructFormat.limit] at inside
      simp only [StructFormat.size, bigEndian_two, ofBigEndian, List.foldl_cons, List.foldl_nil,
        UInt8.toNat_ofNat']
      omega

/-- The bytes of a field survive the round trip, and their value is in range. -/
theorem bigEndian_ofBigEndian (format : StructFormat) (bytes : List UInt8)
    (length : bytes.length = format.size) :
    ofBigEndian bytes < format.limit ∧ bigEndian format.size (ofBigEndian bytes) = bytes := by
  cases format with
  | ubyte =>
      obtain ⟨byte, rfl⟩ := List.length_eq_one_iff.mp length
      have bound := byte.toNat_lt
      have value : ofBigEndian [byte] = byte.toNat := by
        simp only [ofBigEndian, List.foldl_cons, List.foldl_nil, Nat.zero_mul, Nat.zero_add]
      rw [value]
      exact ⟨bound, bigEndian_one byte⟩
  | ushort =>
      match bytes, length with
      | [high, low], _ =>
          have highBound := high.toNat_lt
          have lowBound := low.toNat_lt
          have value : ofBigEndian [high, low] = high.toNat * 256 + low.toNat := by
            simp only [ofBigEndian, List.foldl_cons, List.foldl_nil, Nat.zero_mul, Nat.zero_add]
          rw [value]
          apply And.intro
          · simp only [StructFormat.limit]
            omega
          · rw [show StructFormat.ushort.size = 2 from rfl, bigEndian_two]
            congr 1
            · apply UInt8.toNat_inj.mp
              rw [UInt8.toNat_ofNat']
              omega
            · congr 1
              apply UInt8.toNat_inj.mp
              rw [UInt8.toNat_ofNat']
              omega

/-- A packed field had a value in range. -/
theorem packField_eq_ok {format : StructFormat} {value : Int} {bytes : List UInt8}
    (packed : packField format value = .ok bytes) :
    0 ≤ value ∧ value.toNat < format.limit ∧ bytes = bigEndian format.size value.toNat := by
  unfold packField at packed
  split at packed
  · next inside => exact ⟨inside.1, inside.2, (Except.ok.inj packed).symm⟩
  · simp at packed

/-- A packed sequence starts with its first field. -/
theorem pack_eq_ok_cons {format : StructFormat} {value : Int} {rest : List (StructFormat × Int)}
    {bytes : List UInt8} (packed : pack ((format, value) :: rest) = .ok bytes) :
    ∃ others, 0 ≤ value ∧ value.toNat < format.limit ∧ pack rest = .ok others ∧
      bytes = bigEndian format.size value.toNat ++ others := by
  rw [pack] at packed
  cases first : packField format value with
  | error what => simp [first, bind, Except.bind] at packed
  | ok front =>
      obtain ⟨positive, inside, rfl⟩ := packField_eq_ok first
      cases others : pack rest with
      | error what => simp [first, others, bind, Except.bind] at packed
      | ok back =>
          simp only [first, others, bind, Except.bind, pure, Except.pure, Except.ok.injEq] at packed
          exact ⟨back, positive, inside, rfl, packed.symm⟩

/-- Unpacking gives back the packed values. -/
theorem unpack_pack {fields : List (StructFormat × Int)} {bytes : List UInt8}
    (packed : pack fields = .ok bytes) :
    ∃ values, unpack (fields.map Prod.fst) bytes = .ok values ∧
      values.map Int.ofNat = fields.map Prod.snd := by
  suffices decoded : bytes.length = calcsize (fields.map Prod.fst) ∧
      (unpackFields (fields.map Prod.fst) bytes).map Int.ofNat = fields.map Prod.snd from
    ⟨_, if_pos decoded.1, decoded.2⟩
  induction fields generalizing bytes with
  | nil =>
      obtain rfl := Except.ok.inj packed
      exact ⟨rfl, rfl⟩
  | cons field rest ih =>
      obtain ⟨format, value⟩ := field
      obtain ⟨others, positive, inside, restPacked, rfl⟩ := pack_eq_ok_cons packed
      obtain ⟨length, values⟩ := ih restPacked
      have front := bigEndian_length format.size value.toNat
      simp only [List.map_cons, calcsize, unpackFields, List.length_append, front, length, true_and,
        List.take_left' front, List.drop_left' front, values,
        ofBigEndian_bigEndian format _ inside]
      congr 1
      exact Int.toNat_of_nonneg positive

/-- Packing gives back the unpacked bytes. -/
theorem pack_unpack {formats : List StructFormat} {bytes : List UInt8} {values : List Nat}
    (unpacked : unpack formats bytes = .ok values) :
    pack (formats.zip (values.map Int.ofNat)) = .ok bytes := by
  unfold unpack at unpacked
  split at unpacked
  · next length =>
      obtain rfl := Except.ok.inj unpacked
      induction formats generalizing bytes with
      | nil =>
          rw [List.length_eq_zero_iff.mp length]
          rfl
      | cons format rest ih =>
          simp only [calcsize] at length
          have front : (bytes.take format.size).length = format.size := by
            rw [List.length_take]
            omega
          have back : (bytes.drop format.size).length = calcsize rest := by
            rw [List.length_drop]
            omega
          obtain ⟨inside, same⟩ := bigEndian_ofBigEndian format _ front
          simp only [unpackFields, List.map_cons, List.zip_cons_cons]
          rw [show Int.ofNat (ofBigEndian (bytes.take format.size)) =
              ((ofBigEndian (bytes.take format.size) : Nat) : Int) from rfl,
            pack_cons inside (ih back rfl), same, List.take_append_drop]
  · simp at unpacked

end NetworkTools.Library
