import Mathlib.Data.List.Basic
import Mathlib.Data.List.Infix
import Mathlib.Tactic.Common

/-!
# Records between two offsets of a file

`Holds encode bytes start stop entries` says that the bytes of a file from `start` to `stop` are the encodings
of a list of entries, one after the other. Entries are appended by cutting the file at `stop` and writing more
(`Holds.append`), and dropped by moving `start` (`Holds.drop`). Whatever is written behind `stop` changes
nothing (`Holds.frame`).
-/

namespace Ctl.Base

variable {α β : Type} {encode : α → List β} {bytes bytes' : List β} {start stop : Nat} {entries : List α}

def encodeAll (encode : α → List β) (entries : List α) : List β := entries.flatMap encode

lemma encodeAll_append (first last : List α) :
    encodeAll encode (first ++ last) = encodeAll encode first ++ encodeAll encode last := List.flatMap_append

def Holds (encode : α → List β) (bytes : List β) (start stop : Nat) (entries : List α) : Prop :=
  ∃ front back, bytes = front ++ encodeAll encode entries ++ back ∧ front.length = start ∧
    stop = start + (encodeAll encode entries).length

namespace Holds

lemma le (h : Holds encode bytes start stop entries) : start ≤ stop ∧ stop ≤ bytes.length := by
  obtain ⟨front, back, rfl, rfl, rfl⟩ := h
  simp only [List.length_append]
  omega

lemma length (h : Holds encode bytes start stop entries) : stop - start = (encodeAll encode entries).length := by
  obtain ⟨front, back, rfl, rfl, rfl⟩ := h
  omega

lemma slice (h : Holds encode bytes start stop entries) :
    (bytes.drop start).take (stop - start) = encodeAll encode entries := by
  rw [h.length]
  obtain ⟨front, back, rfl, rfl, rfl⟩ := h
  rw [List.append_assoc, List.drop_left, List.take_left]

lemma new (entries : List α) (back : List β) :
    Holds encode (encodeAll encode entries ++ back) 0 (encodeAll encode entries).length entries :=
  ⟨[], back, rfl, rfl, (Nat.zero_add _).symm⟩

lemma frame (h : Holds encode bytes start stop entries) (same : bytes'.take stop = bytes.take stop) :
    Holds encode bytes' start stop entries := by
  obtain ⟨front, back, rfl, rfl, rfl⟩ := h
  have cut : (front ++ encodeAll encode entries ++ back).take (front.length + (encodeAll encode entries).length)
      = front ++ encodeAll encode entries := by
    rw [← List.length_append, List.take_left]
  rw [cut] at same
  refine ⟨front, bytes'.drop (front.length + (encodeAll encode entries).length), ?_, rfl, rfl⟩
  rw [← same, List.take_append_drop]

lemma append (h : Holds encode bytes start stop entries) (more : List α) :
    Holds encode (bytes.take stop ++ encodeAll encode more) start (stop + (encodeAll encode more).length)
      (entries ++ more) := by
  obtain ⟨front, back, rfl, rfl, rfl⟩ := h
  have cut : (front ++ encodeAll encode entries ++ back).take (front.length + (encodeAll encode entries).length)
      = front ++ encodeAll encode entries := by
    rw [← List.length_append, List.take_left]
  refine ⟨front, [], ?_, rfl, ?_⟩
  · rw [cut, encodeAll_append, List.append_nil, List.append_assoc]
  · rw [encodeAll_append, List.length_append, Nat.add_assoc]

lemma drop {dropped kept : List α} (h : Holds encode bytes start stop (dropped ++ kept)) :
    Holds encode bytes (start + (encodeAll encode dropped).length) stop kept := by
  obtain ⟨front, back, rfl, rfl, rfl⟩ := h
  refine ⟨front ++ encodeAll encode dropped, back, ?_, ?_, ?_⟩
  · simp only [encodeAll_append, List.append_assoc]
  · rw [List.length_append]
  · rw [encodeAll_append, List.length_append, Nat.add_assoc]

end Holds

end Ctl.Base
