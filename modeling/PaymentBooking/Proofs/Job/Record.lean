import PaymentBooking.Job.Outcome
import PaymentBooking.Proofs.Json.Object
import PaymentBooking.Proofs.Json.Unbroken
import PaymentBooking.Proofs.Text.Bytes
import PaymentBooking.Proofs.Text.Separator

/-! # The lines of outcomes

The record of an outcome is one line whatever the texts in it are: its only control byte is the line
feed at its end. So the lines of what is written are the records, one for each outcome. The record
of a job that is left to a person is read back with the members that were written.
-/

namespace PaymentBooking

namespace Json

def bytes (v : Json) : List UInt8 := v.print.toByteArray.data.toList

def ofBytes? (bs : List UInt8) : Option Json :=
  (String.fromUTF8? ⟨bs.toArray⟩).bind parse?

theorem bytes_eq_flatMap (v : Json) : v.bytes = v.write.flatMap String.utf8EncodeChar := by
  rw [bytes, Text.toList_toByteArray, print, String.toList_ofList]

theorem le_of_mem_bytes {v : Json} {b : UInt8} (h : b ∈ v.bytes) : 32 ≤ b.toNat := by
  rw [bytes_eq_flatMap] at h
  exact Text.le_of_mem_flatMap_utf8EncodeChar (by decide) (unbroken_write v) b h

theorem newline_not_mem_bytes (v : Json) : 10 ∉ v.bytes := fun h =>
  absurd (le_of_mem_bytes h) (by decide)

theorem ofBytes?_bytes_object {members : List (String × Json)}
    (h : ∀ m ∈ members, m.2.IsReadable) :
    ofBytes? (object members).bytes = some (ofMembers members) := by
  have hdecode : String.fromUTF8? ⟨(object members).bytes.toArray⟩ = some (object members).print :=
    Text.fromUTF8?_eq_some_iff.2 rfl
  rw [ofBytes?, hdecode, Option.bind_some, parse?_print_object h]

end Json

namespace Outcome

def bytes (job : Job) (o : Outcome) : List UInt8 := (o.line job).toByteArray.data.toList

def written (outcomes : List (Job × Outcome)) : List UInt8 :=
  outcomes.flatMap fun o => o.2.bytes o.1

theorem bytes_eq (job : Job) (o : Outcome) : o.bytes job = (o.record job).bytes ++ [10] := by
  have hfeed : "\n".toList.flatMap String.utf8EncodeChar = [10] := by decide
  simp only [bytes, line, Json.bytes, Text.toList_toByteArray, String.toList_append,
    List.flatMap_append, hfeed]

theorem splitOn_written (outcomes : List (Job × Outcome)) :
    (written outcomes).splitOn 10 = outcomes.map (fun o => (o.2.record o.1).bytes) ++ [[]] := by
  have hwritten : written outcomes =
      (outcomes.map fun o => (o.2.record o.1).bytes).flatMap fun record => record ++ [10] := by
    simp [written, bytes_eq, List.flatMap_map]
  rw [hwritten]
  apply Text.splitOn_flatMap_concat
  intro line hline
  obtain ⟨o, -, rfl⟩ := List.mem_map.1 hline
  exact Json.newline_not_mem_bytes _

theorem ofBytes?_failed (job : Job) (signal : String) (kind : FailureKind) (reason : String) :
    Json.ofBytes? ((failed signal kind reason).record job).bytes = some (.ofMembers
      [("status", .text "failed"), ("key", .number (.ofUInt64 job.key)), ("type", .text job.type),
       ("signal", .text signal), ("kind", .text kind.name), ("reason", .text reason)]) := by
  apply Json.ofBytes?_bytes_object
  simp only [List.forall_mem_cons, List.not_mem_nil, IsEmpty.forall_iff, implies_true, and_true]
  exact ⟨Json.isReadable_text _, Json.isReadable_whole _, Json.isReadable_text _,
    Json.isReadable_text _, Json.isReadable_text _, Json.isReadable_text _⟩

/-- Whatever a job and its outcome hold, what is written for the outcome ends with a line feed and
has no other control byte. So what is written for any outcomes has one line for each, in their
order. The line of a job that is left to a person is read as an object that has the status, the key,
the type, the signal, the kind and the reason that were given, and nothing else. -/
theorem lines_of_written :
    (∀ job o, ∃ line, bytes job o = line ++ [10] ∧ ∀ b ∈ line, 32 ≤ b.toNat) ∧
      (∀ outcomes : List (Job × Outcome), ∃ lines,
        (written outcomes).splitOn 10 = lines ++ [[]] ∧
        List.Forall₂ (fun o line => bytes o.1 o.2 = line ++ [10]) outcomes lines) ∧
      ∀ job signal kind reason, ∃ line v,
        (failed signal kind reason).bytes job = line ++ [10] ∧ Json.ofBytes? line = some v ∧
        ∀ name value, v.member? name = some value ↔ (name, value) ∈
          [("status", .text "failed"), ("key", .number (.ofUInt64 job.key)),
           ("type", .text job.type), ("signal", .text signal), ("kind", .text kind.name),
           ("reason", .text reason)] := by
  refine ⟨fun job o => ?_, fun outcomes => ?_, fun job signal kind reason => ?_⟩
  · exact ⟨_, bytes_eq job o, fun b => Json.le_of_mem_bytes⟩
  · refine ⟨_, splitOn_written outcomes, ?_⟩
    rw [List.forall₂_map_right_iff, List.forall₂_same]
    exact fun o _ => bytes_eq o.1 o.2
  · refine ⟨_, _, bytes_eq job _, ofBytes?_failed job signal kind reason, fun name value => ?_⟩
    exact Json.member?_ofMembers_eq_some_iff (by simp)

end Outcome

end PaymentBooking
