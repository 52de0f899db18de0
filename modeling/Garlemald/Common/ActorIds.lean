import Garlemald.Common.BasePacket

/-!
Retargeting a captured packet: the walk over the aligned words of the data that puts
one actor id for every id of a list. The walk stops short of a word that ends the data.
-/

namespace Garlemald.Common
open Library

/-- `u32::from_le_bytes` of the four bytes at `pos`. -/
def wordAt (data : Bytes) (pos : Nat) : UInt32 := u32Value ((data.drop pos).take 4)

/-- `data[pos..pos + 4].copy_from_slice(&word.to_le_bytes())` -/
def setWordAt (data : Bytes) (pos : Nat) (word : UInt32) : Bytes :=
  data.take pos ++ (u32Bytes word ++ data.drop (pos + 4))

/-- The walk from `pos` on. Its guard keeps every word it reads inside the data. -/
def replaceFrom (needles : List UInt32) (replacement : UInt32) : Nat → Nat → Bytes → Bytes
  | 0, _, data => data
  | fuel + 1, pos, data =>
      if pos + 4 < data.length then
        if wordAt data pos ∈ needles then
          replaceFrom needles replacement fuel (pos + 4) (setWordAt data pos replacement)
        else replaceFrom needles replacement fuel (pos + 4) data
      else data

namespace BasePacket

def replaceMatchingIds (needles : List UInt32) (replacement : UInt32) (p : BasePacket) :
    BasePacket :=
  if p.data.length < 4 then p
  else { p with data := replaceFrom needles replacement p.data.length 0 p.data }

def originalIds : List UInt32 :=
  [0x029B2941, 0x02977DC7, 0x0297D2C8, 0x0230d573, 0x23317df, 0x23344a3, 0x1730bdb, 0x6c]

def replaceActorId (actorId : UInt32) (p : BasePacket) : BasePacket :=
  p.replaceMatchingIds originalIds actorId

def replaceActorIdFrom (fromActorId actorId : UInt32) (p : BasePacket) : BasePacket :=
  p.replaceMatchingIds [fromActorId] actorId

end BasePacket

/-! ### Words -/

theorem length_setWordAt {data : Bytes} {pos : Nat} (inside : pos + 4 ≤ data.length)
    (word : UInt32) : (setWordAt data pos word).length = data.length := by
  simp only [setWordAt, List.length_append, List.length_take, length_u32Bytes, List.length_drop]
  omega

theorem wordAt_setWordAt_self {data : Bytes} {pos : Nat} (inside : pos + 4 ≤ data.length)
    (word : UInt32) : wordAt (setWordAt data pos word) pos = word := by
  have front : (data.take pos).length = pos := by
    rw [List.length_take]
    omega
  rw [wordAt, setWordAt, List.drop_left' front, List.take_left' (length_u32Bytes word),
    u32Value_u32Bytes]

theorem getElem?_setWordAt {data : Bytes} {pos i : Nat} (inside : pos + 4 ≤ data.length)
    (word : UInt32) (apart : i < pos ∨ pos + 4 ≤ i) :
    (setWordAt data pos word)[i]? = data[i]? := by
  have front : (data.take pos).length = pos := by
    rw [List.length_take]
    omega
  rcases apart with before | behind
  · rw [setWordAt, List.getElem?_append_left (by omega), List.getElem?_take_of_lt before]
  · rw [setWordAt, List.getElem?_append_right (by omega), List.getElem?_append_right, front,
      length_u32Bytes, List.getElem?_drop]
    · congr 1
      omega
    · rw [front, length_u32Bytes]
      omega

theorem wordAt_congr {data data' : Bytes} {pos : Nat}
    (same : ∀ i, pos ≤ i → i < pos + 4 → data'[i]? = data[i]?) :
    wordAt data' pos = wordAt data pos := by
  rw [wordAt, wordAt]
  congr 1
  apply List.ext_getElem?
  intro i
  rw [List.getElem?_take, List.getElem?_take]
  split
  · next near =>
      rw [List.getElem?_drop, List.getElem?_drop]
      exact same (pos + i) (Nat.le_add_right pos i) (by omega)
  · rfl

/-! ### The walk -/

section Replace

variable {needles : List UInt32} {replacement : UInt32}

variable (needles replacement) in
def replaced (word : UInt32) : UInt32 := if word ∈ needles then replacement else word

variable (needles replacement) in
/-- What the walk from the word `j` on leaves: a word before it or at the very end of the
data is as it was, and so are the bytes that fill no word. -/
structure Walked (j : Nat) (data data' : Bytes) : Prop where
  length_eq : data'.length = data.length
  before : ∀ k, k < j → wordAt data' (4 * k) = wordAt data (4 * k)
  word : ∀ k, j ≤ k → 4 * k + 4 < data.length →
    wordAt data' (4 * k) = replaced needles replacement (wordAt data (4 * k))
  behind : ∀ i, data.length ≤ i / 4 * 4 + 4 → data'[i]? = data[i]?

theorem Walked.stop {j : Nat} {data : Bytes} (short : data.length ≤ 4 * j + 4) :
    Walked needles replacement j data data where
  length_eq := rfl
  before _ _ := rfl
  word k above inside := by omega
  behind _ _ := rfl

theorem Walked.turn {j : Nat} {data turned data' : Bytes} (inside : 4 * j + 4 < data.length)
    (here : turned = data ∧ wordAt data (4 * j) ∉ needles ∨
      turned = setWordAt data (4 * j) replacement ∧ wordAt data (4 * j) ∈ needles)
    (rest : Walked needles replacement (j + 1) turned data') :
    Walked needles replacement j data data' := by
  rcases here with ⟨rfl, other⟩ | ⟨rfl, own⟩
  · refine ⟨rest.length_eq, fun k below => rest.before k (by omega), fun k above within => ?_,
      rest.behind⟩
    by_cases first : k = j
    · rw [rest.before k (by omega), first, replaced, if_neg other]
    · exact rest.word k (by omega) within
  · have length_eq := length_setWordAt (Nat.le_of_lt inside) replacement
    have others (k : Nat) (apart : k ≠ j) :
        wordAt (setWordAt data (4 * j) replacement) (4 * k) = wordAt data (4 * k) := by
      apply wordAt_congr
      intro i low high
      exact getElem?_setWordAt (Nat.le_of_lt inside) replacement (by omega)
    refine ⟨rest.length_eq.trans length_eq, fun k below => ?_, fun k above within => ?_,
      fun i late => ?_⟩
    · rw [rest.before k (by omega), others k (by omega)]
    · by_cases first : k = j
      · rw [rest.before k (by omega), first, replaced, if_pos own]
        exact wordAt_setWordAt_self (Nat.le_of_lt inside) replacement
      · rw [rest.word k (by omega) (by rw [length_eq]; exact within), others k first]
    · rw [rest.behind i (by rw [length_eq]; exact late)]
      exact getElem?_setWordAt (Nat.le_of_lt inside) replacement (by omega)

theorem replaceFrom_walked (fuel j : Nat) (data : Bytes) (enough : data.length ≤ 4 * j + 4 * fuel) :
    Walked needles replacement j data (replaceFrom needles replacement fuel (4 * j) data) := by
  induction fuel generalizing j data with
  | zero => exact .stop (by omega)
  | succ fuel ih =>
      rw [replaceFrom]
      split
      · next inside =>
          have next_word : 4 * j + 4 = 4 * (j + 1) := by omega
          split
          · next own =>
              have length_eq := length_setWordAt (Nat.le_of_lt inside) replacement
              rw [next_word]
              exact .turn inside (Or.inr ⟨rfl, own⟩) (ih (j + 1) _ (by omega))
          · next other =>
              rw [next_word]
              exact .turn inside (Or.inl ⟨rfl, other⟩) (ih (j + 1) data (by omega))
      · next short => exact .stop (by omega)

/-- Every aligned word of the data that is one of the ids has become the new id, and every
other word, and the bytes that fill no word, are as they were. -/
structure Retargeted (needles : List UInt32) (replacement : UInt32) (data data' : Bytes) :
    Prop where
  length_eq : data'.length = data.length
  word : ∀ k, 4 * k + 4 ≤ data.length →
    wordAt data' (4 * k) = replaced needles replacement (wordAt data (4 * k))
  rest : ∀ i, data.length < i / 4 * 4 + 4 → data'[i]? = data[i]?

/-- The data ends in a whole word that is one of the ids, and not the new one already. -/
def EndsInId (needles : List UInt32) (replacement : UInt32) (data : Bytes) : Prop :=
  ∃ k, data.length = 4 * k + 4 ∧ wordAt data (4 * k) ∈ needles ∧ wordAt data (4 * k) ≠ replacement

theorem replaceMatchingIds_retargeted (needles : List UInt32) (replacement : UInt32)
    (p : BasePacket) :
    Retargeted needles replacement p.data (p.replaceMatchingIds needles replacement).data ↔
      ¬ EndsInId needles replacement p.data := by
  by_cases short : p.data.length < 4
  · rw [BasePacket.replaceMatchingIds, if_pos short]
    refine iff_of_true ⟨rfl, fun k inside => by omega, fun _ _ => rfl⟩ ?_
    rintro ⟨k, length_eq, -⟩
    omega
  · have walked : Walked needles replacement 0 p.data
        (replaceFrom needles replacement p.data.length 0 p.data) :=
      replaceFrom_walked p.data.length 0 p.data (by omega)
    rw [BasePacket.replaceMatchingIds, if_neg short]
    dsimp only
    have kept (k : Nat) (last : p.data.length = 4 * k + 4) :
        wordAt (replaceFrom needles replacement p.data.length 0 p.data) (4 * k) =
          wordAt p.data (4 * k) :=
      wordAt_congr fun i low high => walked.behind i (by omega)
    constructor
    · rintro retargeted ⟨k, last, own, other⟩
      have changed := retargeted.word k (by omega)
      rw [kept k last, replaced, if_pos own] at changed
      exact other changed
    · intro free
      refine ⟨walked.length_eq, fun k inside => ?_, fun i late => walked.behind i (by omega)⟩
      by_cases last : p.data.length = 4 * k + 4
      · rw [kept k last, replaced]
        split
        · next own =>
            by_contra other
            exact free ⟨k, last, own, other⟩
        · rfl
      · exact walked.word k (Nat.zero_le k) (by omega)

end Replace

namespace BasePacket

/-- Replacing one id is complete exactly if the data does not end in a word with that id,
unless the new id is the same. -/
theorem replaceActorIdFrom_complete_iff (p : BasePacket) (fromActorId actorId : UInt32) :
    Retargeted [fromActorId] actorId p.data (p.replaceActorIdFrom fromActorId actorId).data ↔
      ∀ k, p.data.length = 4 * k + 4 → wordAt p.data (4 * k) = fromActorId →
        fromActorId = actorId := by
  refine (replaceMatchingIds_retargeted [fromActorId] actorId p).trans ?_
  constructor
  · intro free k last own
    by_contra other
    exact free ⟨k, last, List.mem_singleton.mpr own, own ▸ other⟩
  · rintro allowed ⟨k, last, own, other⟩
    have same := List.mem_singleton.mp own
    exact other (same.trans (allowed k last same))

theorem replaceActorIdFrom_misses_last :
    ¬ Retargeted [0x6c] 0x100 [0x6c, 0, 0, 0, 0x6c, 0, 0, 0]
      (replaceActorIdFrom 0x6c 0x100 ⟨{}, [0x6c, 0, 0, 0, 0x6c, 0, 0, 0]⟩).data := by
  intro retargeted
  have changed := retargeted.word 1 (by decide)
  have kept : wordAt (replaceActorIdFrom 0x6c 0x100
      ⟨{}, [0x6c, 0, 0, 0, 0x6c, 0, 0, 0]⟩).data (4 * 1) = 0x6c := by decide
  rw [kept] at changed
  exact absurd changed (by decide)

end BasePacket
end Garlemald.Common
