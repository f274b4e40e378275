import Mathlib.Tactic.Common
import Routing.Proofs.JsonReader
import Routing.Response

/-!
# Proofs: serialized responses

The text of a response is JSON for an object of its status and its body. Since no text stands for two
values, responses have the same text only if they have the same status and the same body; their headers
have no part in it.
-/

namespace Routing.Response

open Json

variable {response other : Response}

/-- What the text of a response stands for. -/
def toJson (response : Response) : Value :=
  .obj [("body", response.body), ("status", .int response.status.toNat)]

theorem toJson_inj :
    response.toJson = other.toJson ↔ response.status = other.status ∧ response.body = other.body := by
  simp only [toJson, Value.obj.injEq, List.cons.injEq, Prod.mk.injEq, Value.int.injEq, true_and,
    and_true, Int.natCast_inj, UInt16.toNat_inj]
  exact and_comm

theorem isTextOf_serialize (h : response.body.IsOrdered) :
    IsTextOf response.serialize.toList response.toJson := by
  let members : List (String × Value) :=
    [("status", .int response.status.toNat), ("body", response.body)]
  have hobject : Value.object members = response.toJson := by
    have hne : "body" ≠ "status" := by decide
    have hbefore : "body" < "status" := by decide
    simp only [members, Value.object, List.foldl_cons, List.foldl_nil, Value.insertMember, if_neg hne,
      if_pos hbefore, toJson]
  have hvalues : ∀ member ∈ members, Denotes (write member.2) member.2 := by
    intro member hmember
    rcases List.mem_pair.mp hmember with rfl | rfl
    · exact denotes_write (.int _)
    · exact denotes_write h
  have hdenotes := denotes_write_obj hvalues
  rw [hobject] at hdenotes
  refine ⟨⟨[], write (.obj members), [], response.toJson⟩, ⟨isGap_nil, isGap_nil⟩, hdenotes, ?_, rfl⟩
  simp [serialize, render, Item.text, members]

/-- The text of a response is JSON and stands for an object of two members, the body of the response and
its status, and for nothing else; so this object is what it is decoded to. Two responses have the same
text exactly if they have the same status and the same body, and other headers make no difference. -/
theorem serialize_decodes (response : Response) (h : response.body.IsOrdered) :
    IsTextOf response.serialize.toList
      (.obj [("body", response.body), ("status", .int response.status.toNat)]) ∧
    (∀ value, IsTextOf response.serialize.toList value →
      value = .obj [("body", response.body), ("status", .int response.status.toNat)]) ∧
    decode? response.serialize =
      some (.obj [("body", response.body), ("status", .int response.status.toNat)]) ∧
    (∀ other : Response, other.body.IsOrdered →
      (response.serialize = other.serialize ↔
        response.status = other.status ∧ response.body = other.body)) ∧
    ∀ headers, { response with headers }.serialize = response.serialize := by
  have htext := isTextOf_serialize h
  refine ⟨htext, fun value hvalue => hvalue.unique htext, decode?_eq_some htext, fun other hother => ?_,
    fun headers => rfl⟩
  constructor
  · intro heq
    have hotherText := isTextOf_serialize hother
    rw [← heq] at hotherText
    exact toJson_inj.mp (htext.unique hotherText)
  · rintro ⟨hstatus, hbody⟩
    rw [serialize, serialize, hstatus, hbody]

/-- A body with the least and the greatest of all numbers, with members that are given out of order, and
with quotes, backslashes and control characters in its texts; the status can be told from the text. -/
theorem serialize_decodes_nested :
    let body : Value := .object
      [("b", .arr [.int (-9223372036854775808), .int 18446744073709551615, .arr [], .null]),
        ("\"a\\", .str "\n\x01é")]
    body.IsOrdered ∧
      decode? (json 418 body).serialize = some (.obj [("body", body), ("status", .int 418)]) ∧
      (json 418 body).serialize ≠ (json 404 body).serialize := by
  intro body
  have hbody : body.IsOrdered := by
    refine Value.isOrdered_object fun member hmember => ?_
    rcases List.mem_pair.mp hmember with rfl | rfl
    · refine .arr fun item hitem => ?_
      simp only [List.mem_cons, List.not_mem_nil, or_false] at hitem
      rcases hitem with rfl | rfl | rfl | rfl
      · exact .int _
      · exact .int _
      · exact .arr fun item hitem => absurd hitem List.not_mem_nil
      · exact .null
    · exact .str _
  obtain ⟨-, -, hdecode, hsame, -⟩ := serialize_decodes (json 418 body) hbody
  refine ⟨hbody, hdecode, fun heq => ?_⟩
  have hstatus : (418 : UInt16) = 404 := ((hsame (json 404 body) hbody).mp heq).1
  exact absurd hstatus (by decide)

end Routing.Response
