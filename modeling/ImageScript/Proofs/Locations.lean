-- Where an answer says that it is, it is: its line and its column are those
-- that are found by counting the bytes before its offset.  It holds of every
-- answer of every run, whatever failed before.
import ImageScript.Proofs.ByteByByte

namespace ImageScript

/-- The place that an answer names: where its token or its failure starts. -/
def Outcome.start : Outcome → Position
  | .ok t => t.start
  | .error e => e.start

/-! ## True positions -/

theorem Position.TrueIn.offset_le {p : Position} {source : String} (h : p.TrueIn source) :
    p.offset ≤ source.utf8ByteSize := by
  unfold TrueIn at h
  have ho : p.offset = ((Utf8.encode source.toList).take p.offset).length := congrArg offset h
  rw [List.length_take, Utf8.length_encode, ← Utf8.utf8ByteSize_eq_length] at ho
  omega

theorem Position.TrueIn.toLocation_eq {p : Position} {source : String} (h : p.TrueIn source) :
    p.toLocation = Location.following ((Utf8.encode source.toList).take p.offset) :=
  congrArg toLocation h

/-! ## One call -/

namespace Lexer

/-- What is found at the front of a text names the front, or, inside a string,
the character that is found there. -/
theorem trueIn_start_takeFront {source : String} (s : Lexer) {before : List Char} {f : Front}
    (h : source.toList = before ++ f.input) :
    (s.takeFront (Position.start.after before) f).1.start.TrueIn source := by
  cases f with
  | illegalInString body c rest =>
    have h' : source.toList = before ++ '"' :: body ++ c :: rest := by
      rw [h, Front.input, List.append_assoc]
    dsimp only [takeFront, Outcome.start]
    rw [← Position.after_append]
    exact Position.trueIn_after h'
  | _ => exact Position.trueIn_after h

theorem trueIn_start_read {source : String} {s : Lexer} (h : s.StandsIn source) :
    s.read.1.start.TrueIn source := by
  rcases read_cases h with ⟨front, gap, rest, hs, _, _, _, hr⟩ | ⟨_, hp, hr⟩
  · rw [hr]
    apply trueIn_start_takeFront
    rw [Front.input_ofText, hs]
  · rw [hr]
    exact hp

end Lexer

/-! ## Whole runs -/

/-- The byte-by-byte machine and the lexer give the same answers to all calls,
and each answer names the line and the column that the bytes before its offset
make. -/
theorem every_answer_names_its_true_location (source : String) (pulls : List Lexer.Pull) :
    ∃ answers last,
      (Machine.ofString source).pullAll pulls = some (answers, last) ∧
      ((Lexer.ofString source).pullAll pulls).1 = answers ∧
      ∀ outcome, some outcome ∈ answers →
        outcome.start.offset ≤ source.utf8ByteSize ∧
        outcome.start.toLocation =
          Location.following ((Utf8.encode source.toList).take outcome.start.offset) := by
  obtain ⟨last, hall⟩ := Machine.pullAll_ofString source pulls
  refine ⟨_, last, hall, rfl, ?_⟩
  intro outcome ho
  obtain ⟨s, hs, rfl⟩ := Lexer.exists_read_of_mem_pullAll (Lexer.standsIn_ofString source) ho
  have htrue := Lexer.trueIn_start_read hs
  exact ⟨htrue.offset_le, htrue.toLocation_eq⟩

end ImageScript
