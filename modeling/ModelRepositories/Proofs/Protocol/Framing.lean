import ModelRepositories.Proofs.Json.Visible
import ModelRepositories.Proofs.Text.Utf8
import ModelRepositories.Protocol.Serve

/-!
A response is one line of bytes: a text without a line feed, and a line feed.
-/

namespace ModelRepositories.Protocol

open Json

def printedBytes (value : Value) : Bytes :=
  (print value).toUTF8.toList

theorem printedBytes_eq (value : Value) :
    printedBytes value = (printValue value).flatMap String.utf8EncodeChar := by
  rw [printedBytes, Text.toList_toUTF8, print, String.toList_ofList]

theorem encode_eq (response : Response) :
    response.encode = printedBytes response.toJson ++ [lineFeed] := by
  unfold Response.encode printedBytes
  rw [Text.toList_toUTF8, Text.toList_toUTF8, String.toList_append, List.flatMap_append]
  rfl

theorem lineFeed_not_mem (value : Value) : lineFeed ∉ printedBytes value := by
  intro member
  rw [printedBytes_eq] at member
  obtain ⟨c, written, member⟩ := List.mem_flatMap.mp member
  have visible := Text.utf8EncodeChar_visible (visible_printValue value c written) _ member
  exact absurd visible (by decide)

theorem fromUTF8?_printedBytes (value : Value) :
    String.fromUTF8? ⟨(printedBytes value).toArray⟩ = some (print value) := by
  rw [Text.fromUTF8?_eq_some, printedBytes_eq, print, String.toList_ofList]

end ModelRepositories.Protocol
