import ModelRepositories.Proofs.Json.Stored
import ModelRepositories.Protocol.Request

/-!
What a request carries. Its id is a value as readers make them, one level below the request.
-/

namespace ModelRepositories.Protocol

open Json

theorem refuse_ne_ok {α : Type} {expected : Expected} {bound : Nat} {text : List Char} {a : α} :
    refuse expected bound text ≠ .ok a := by
  intro read
  unfold refuse at read
  split at read
  · cases read
  · cases read
  · obtain ⟨⟨value, rest⟩, -, read⟩ := bind_eq_ok.mp read
    cases read

def Draft.IdStored (draft : Draft) : Prop :=
  ∀ id, draft.id = some id → Stored (maxLevels - 1) id

theorem readMember_keeps {bound : Nat} {draft after : Draft} {key : String}
    {text rest : List Char} (kept : draft.IdStored)
    (read : readMember bound draft key text = .ok (after, rest)) : after.IdStored := by
  unfold readMember at read
  split at read
  · split at read
    · cases read
    · obtain ⟨colon, -, read⟩ := bind_eq_ok.mp read
      obtain ⟨⟨method, behind⟩, -, read⟩ := bind_eq_ok.mp read
      cases read
      exact kept
  split at read
  · split at read
    · cases read
    · obtain ⟨colon, -, read⟩ := bind_eq_ok.mp read
      obtain ⟨⟨params, behind⟩, -, read⟩ := bind_eq_ok.mp read
      cases read
      exact kept
  split at read
  · split at read
    · cases read
    · obtain ⟨colon, -, read⟩ := bind_eq_ok.mp read
      obtain ⟨⟨value, behind⟩, payload, read⟩ := bind_eq_ok.mp read
      cases read
      rintro id ⟨⟩
      exact stored_readValue payload
  · obtain ⟨colon, -, read⟩ := bind_eq_ok.mp read
    obtain ⟨⟨skipped, behind⟩, -, read⟩ := bind_eq_ok.mp read
    cases read
    exact kept

theorem Draft.IdStored.finish {draft : Draft} (kept : draft.IdStored) {rest : List Char}
    {request : Request} (finished : draft.finish rest = .ok request) :
    Stored (maxLevels - 1) request.id := by
  unfold Draft.finish at finished
  split at finished
  · cases finished
  · cases finished
  · next present =>
    cases finished
    exact kept _ present

theorem stored_id {text : String} {request : Request} (parsed : Request.parse text = .ok request) :
    Stored (maxLevels - 1) request.id := by
  obtain ⟨rest, read, -⟩ := readAll_eq_ok.mp parsed
  unfold readRequest at read
  split at read
  · obtain ⟨⟨draft, behind⟩, members, read⟩ := bind_eq_ok.mp read
    obtain ⟨finished, closed, read⟩ := bind_eq_ok.mp read
    cases read
    have start : Draft.IdStored {} := fun id absent => nomatch absent
    have kept := readMembers_keeps (P := Draft.IdStored)
      (fun draft key text after rest => readMember_keeps) start members
    exact kept.finish closed
  · unfold readList at read
    obtain ⟨first, -, read⟩ := bind_eq_ok.mp read
    obtain ⟨⟨method, behindMethod⟩, -, read⟩ := bind_eq_ok.mp read
    obtain ⟨second, -, read⟩ := bind_eq_ok.mp read
    obtain ⟨⟨params, behindParams⟩, -, read⟩ := bind_eq_ok.mp read
    obtain ⟨third, -, read⟩ := bind_eq_ok.mp read
    obtain ⟨⟨id, behind⟩, payload, read⟩ := bind_eq_ok.mp read
    obtain ⟨closed, -, read⟩ := bind_eq_ok.mp read
    cases read
    exact stored_readValue payload
  · exact absurd read refuse_ne_ok

end ModelRepositories.Protocol
