/-
This file proves which bytes of a datagram the header extraction reads.
-/

import NetworkTools.Specification.Answer

namespace NetworkTools
open Library Specification

@[simp] theorem byteAt_nil (index : Nat) : byteAt [] index = 0 := by
  simp [byteAt]

theorem byteAt_take (bytes : List UInt8) (count index : Nat) (inside : index < count) :
    byteAt (bytes.take count) index = byteAt bytes index := by
  simp [byteAt, inside]

/-- A store into zeros makes the absent bytes read as zero. -/
theorem store_zero {size : Nat} (bytes : List UInt8) (index : Nat) (inside : index < size) :
    (store (Vector.replicate size 0) 0 bytes)[index] = byteAt bytes index := by
  simp [store_getElem, byteAt]

/-- A store behind an index keeps the byte there. -/
theorem store_behind {size : Nat} (memory : Vector UInt8 size) (offset : Nat)
    (bytes : List UInt8) (index : Nat) (inside : index < size) (before : index < offset) :
    (store memory offset bytes)[index] = memory[index] := by
  simp [store_getElem, Nat.not_le.mpr before]

theorem icmpExtract_getElem (bytes : List UInt8) (index : Nat) (inside : index < 8) :
    (IcmpHeader.extract ⟨bytes, true⟩ .zero).1.rep[index] = byteAt bytes index := by
  simp only [IcmpHeader.extract, IcmpHeader.zero, InputStream.read, ite_true]
  rw [store_zero, byteAt_take bytes 8 index inside]

/-- A failed stream leaves the ICMP header at its zeros. -/
theorem icmpExtract_failed (stream : InputStream) (failed : stream.good = false) :
    IcmpHeader.extract stream .zero = (.zero, stream) := by
  simp only [IcmpHeader.extract, stream.read_failed failed, store_nil]

/-- This header holds what the first read of the IPv4 extraction delivers. -/
def fixedPart (stream : InputStream) : Ipv4Header :=
  ⟨store Ipv4Header.zero.rep 0 (stream.read 20).1⟩

/-- The version check follows the first read. -/
def versionChecked (stream : InputStream) : InputStream :=
  if (fixedPart stream).version ≠ 4 then (stream.read 20).2.setFail else (stream.read 20).2

theorem fixedPart_getElem (stream : InputStream) (index : Nat) (inside : index < 60) :
    (fixedPart stream).rep[index] = byteAt (stream.read 20).1 index :=
  store_zero _ index inside

/-- A length field below five words fails the stream. -/
theorem ipv4Extract_low (stream : InputStream)
    (low : (fixedPart stream).headerLength.toNat < 20) :
    Ipv4Header.extract stream .zero = (fixedPart stream, (versionChecked stream).setFail) := by
  have range : ((fixedPart stream).headerLength.toNat : Int) - 20 < 0 := by omega
  exact if_pos (Or.inl range)

/-- A length field of at least five words makes the extraction read the options. -/
theorem ipv4Extract_options (stream : InputStream)
    (enough : 20 ≤ (fixedPart stream).headerLength.toNat) :
    Ipv4Header.extract stream .zero =
      (⟨store (fixedPart stream).rep 20
          ((versionChecked stream).read ((fixedPart stream).headerLength.toNat - 20)).1⟩,
        ((versionChecked stream).read ((fixedPart stream).headerLength.toNat - 20)).2) := by
  have bounded : (fixedPart stream).headerLength.toNat ≤ 60 := by
    rw [Ipv4Header.headerLength_toNat]
    omega
  have range : ¬(((fixedPart stream).headerLength.toNat : Int) - 20 < 0 ∨
      40 < ((fixedPart stream).headerLength.toNat : Int) - 20) := by omega
  have length : (((fixedPart stream).headerLength.toNat : Int) - 20).toNat =
      (fixedPart stream).headerLength.toNat - 20 := by omega
  rw [← length]
  exact if_neg range

section Ipv4

variable (bytes : List UInt8)

theorem fixedPart_fixed (index : Nat) (inside : index < 20) :
    (fixedPart ⟨bytes, true⟩).rep[index] = byteAt bytes index := by
  rw [fixedPart_getElem _ index (by omega)]
  exact byteAt_take bytes 20 index inside

theorem fixedPart_version :
    (fixedPart ⟨bytes, true⟩).version.toNat = ipv4Version bytes := by
  rw [Ipv4Header.version_toNat, fixedPart_fixed bytes 0 (by decide), ipv4Version]

theorem fixedPart_headerLength :
    (fixedPart ⟨bytes, true⟩).headerLength.toNat = ipv4HeaderSize bytes := by
  rw [Ipv4Header.headerLength_toNat, fixedPart_fixed bytes 0 (by decide), ipv4HeaderSize,
    Nat.mul_comm]

/-- The fixed part holds the first bytes of the datagram, also when it is too short. -/
theorem ipv4Extract_fixed (index : Nat) (inside : index < 20) :
    (Ipv4Header.extract ⟨bytes, true⟩ .zero).1.rep[index] = byteAt bytes index := by
  by_cases low : (fixedPart ⟨bytes, true⟩).headerLength.toNat < 20
  · rw [ipv4Extract_low _ low, fixedPart_fixed bytes index inside]
  · rw [ipv4Extract_options _ (by omega), store_behind _ 20 _ index (by omega) inside,
      fixedPart_fixed bytes index inside]

/-- The length field of the header comes from the first byte. -/
theorem ipv4Extract_headerLength :
    (Ipv4Header.extract ⟨bytes, true⟩ .zero).1.headerLength.toNat = ipv4HeaderSize bytes := by
  rw [Ipv4Header.headerLength_toNat, ipv4Extract_fixed bytes 0 (by decide), ipv4HeaderSize,
    Nat.mul_comm]

/-- The version check passes exactly a long enough datagram of version four. -/
theorem versionChecked_eq :
    versionChecked ⟨bytes, true⟩ =
      if ipv4Version bytes = 4 then (InputStream.read ⟨bytes, true⟩ 20).2
      else (InputStream.read ⟨bytes, true⟩ 20).2.setFail := by
  have same : (fixedPart ⟨bytes, true⟩).version = 4 ↔ ipv4Version bytes = 4 := by
    rw [← fixedPart_version, ← UInt8.toNat_inj]
    rfl
  by_cases four : ipv4Version bytes = 4
  · rw [if_pos four, versionChecked, if_neg (not_not.mpr (same.mpr four))]
  · rw [if_neg four, versionChecked, if_pos (mt same.mp four)]

/-- A readable header leaves a good stream at the ICMP message. -/
theorem ipv4Extract_readable (readable : Ipv4Readable bytes) :
    (Ipv4Header.extract ⟨bytes, true⟩ .zero).2 =
      ⟨bytes.drop (ipv4HeaderSize bytes), true⟩ := by
  rcases readable with ⟨version, low, high⟩
  rw [ipv4Extract_options _ (by rwa [fixedPart_headerLength]), fixedPart_headerLength,
    versionChecked_eq, if_pos version, InputStream.read_full bytes 20 (by omega),
    InputStream.read_full _ _ (by rw [List.length_drop]; omega), List.drop_drop,
    Nat.add_sub_cancel' low]

/-- A header that is not readable leaves a failed stream. -/
theorem ipv4Extract_unreadable (unreadable : ¬ Ipv4Readable bytes) :
    (Ipv4Header.extract ⟨bytes, true⟩ .zero).2.good = false := by
  by_cases low : ipv4HeaderSize bytes < 20
  · rw [ipv4Extract_low _ (by rwa [fixedPart_headerLength])]
    rfl
  rw [ipv4Extract_options _ (by rw [fixedPart_headerLength]; omega), fixedPart_headerLength]
  by_cases failed : (versionChecked ⟨bytes, true⟩).good = false
  · rw [InputStream.read_failed _ failed]
    exact failed
  -- A stream that is still good has version four, so the options are cut short.
  rw [versionChecked_eq] at failed ⊢
  by_cases version : ipv4Version bytes = 4
  · rw [if_pos version] at failed ⊢
    have long : 20 ≤ bytes.length := by
      by_contra short
      rw [InputStream.read_short bytes 20 (by omega)] at failed
      exact failed rfl
    rw [InputStream.read_full bytes 20 long, InputStream.read_short _ _ (by
      rw [List.length_drop]
      by_contra enough
      exact unreadable ⟨version, by omega, by omega⟩)]
  · rw [if_neg version] at failed
    exact absurd rfl failed

end Ipv4

theorem readHeaders_ipv4 (stream : InputStream) (sender : AddressV6) :
    readHeaders .useIpv4 stream sender =
      ((Ipv4Header.extract stream .zero).1,
        (IcmpHeader.extract (Ipv4Header.extract stream .zero).2 .zero).1) := rfl

theorem readHeaders_ipv6 (stream : InputStream) (sender : AddressV6) :
    readHeaders .useIpv6 stream sender =
      (Ipv6Header.zero.setSourceAddress sender, (IcmpHeader.extract stream .zero).1) := rfl

/-- The ICMP header holds the zero-filled bytes of the ICMP part. -/
theorem readHeaders_icmp (ip : IpType) (bytes : List UInt8) (sender : AddressV6)
    (index : Nat) (inside : index < 8) :
    (readHeaders ip ⟨bytes, true⟩ sender).2.rep[index] = byteAt (icmpPart ip bytes) index := by
  cases ip with
  | useIpv4 =>
      rw [readHeaders_ipv4]
      by_cases readable : Ipv4Readable bytes
      · rw [icmpPart, if_pos readable, ipv4Extract_readable bytes readable]
        exact icmpExtract_getElem _ index inside
      · rw [icmpPart, if_neg readable, byteAt_nil,
          icmpExtract_failed _ (ipv4Extract_unreadable bytes readable)]
        exact Vector.getElem_replicate inside
  | useIpv6 =>
      rw [readHeaders_ipv6]
      exact icmpExtract_getElem bytes index inside

section Fields

variable (ip : IpType) (bytes : List UInt8) (sender : AddressV6)

theorem readHeaders_type :
    (readHeaders ip ⟨bytes, true⟩ sender).2.type = byteAt (icmpPart ip bytes) 0 :=
  readHeaders_icmp ip bytes sender 0 (by decide)

theorem readHeaders_identifier :
    (readHeaders ip ⟨bytes, true⟩ sender).2.identifier.toNat = wordAt (icmpPart ip bytes) 4 := by
  simp only [IcmpHeader.identifier, decode_toNat, readHeaders_icmp, wordAt, Nat.reduceAdd]

theorem readHeaders_sequenceNumber :
    (readHeaders ip ⟨bytes, true⟩ sender).2.sequenceNumber.toNat =
      wordAt (icmpPart ip bytes) 6 := by
  simp only [IcmpHeader.sequenceNumber, decode_toNat, readHeaders_icmp, wordAt, Nat.reduceAdd]

end Fields

end NetworkTools
