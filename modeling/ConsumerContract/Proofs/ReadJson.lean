/-
This file proves that a value that was read from a text has the members of its
objects in key order. The reader keeps a stack of opened collections; each step
either adds a complete value to the innermost one or closes it, and where an object
is closed, its members are put into order. So all values on the stack have this
property after every token.
-/

import ConsumerContract.Json.Parser
import ConsumerContract.Proofs.Compiled
import ConsumerContract.Proofs.JsonTree

namespace ConsumerContract.Json

/-- All values in an opened collection have their objects in key order. -/
def Opened.KeysOrdered : Opened → Prop
  | list items => ∀ item ∈ items, item.KeysOrdered
  | object members _ => ∀ entry ∈ members, entry.2.KeysOrdered

theorem Opened.keysOrdered_list_nil : (list []).KeysOrdered :=
  fun _ member => absurd member List.not_mem_nil

theorem Opened.keysOrdered_object_nil (key : String) : (object [] key).KeysOrdered :=
  fun _ member => absurd member List.not_mem_nil

namespace Progress

/-- All values that have been read so far have their objects in key order. -/
structure KeysOrdered (progress : Progress) : Prop where
  opened : ∀ collection ∈ progress.opened, collection.KeysOrdered
  finished : ∀ value, progress.awaited = .nothing value → value.KeysOrdered

section Steps

variable {opened : List Opened} {token : JsonToken} {progress next : Progress}

theorem KeysOrdered.unfinished (ordered : ∀ collection ∈ opened, collection.KeysOrdered)
    {awaited : Awaited} (more : ∀ value, awaited ≠ .nothing value) :
    KeysOrdered ⟨opened, awaited⟩ :=
  ⟨ordered, fun value same => absurd same (more value)⟩

theorem keysOrdered_complete (ordered : ∀ collection ∈ opened, collection.KeysOrdered)
    {value : Json} (whole : value.KeysOrdered) : (complete opened value).KeysOrdered := by
  cases opened with
  | nil => exact ⟨ordered, fun other same => Awaited.nothing.inj same ▸ whole⟩
  | cons collection outer =>
    obtain ⟨here, others⟩ := List.forall_mem_cons.mp ordered
    cases collection with
    | list items =>
      have added : (Opened.list (value :: items)).KeysOrdered :=
        List.forall_mem_cons.mpr ⟨whole, here⟩
      exact .unfinished (List.forall_mem_cons.mpr ⟨added, others⟩) nofun
    | object members key =>
      have added : (Opened.object ((key, value) :: members) key).KeysOrdered :=
        List.forall_mem_cons.mpr ⟨whole, here⟩
      exact .unfinished (List.forall_mem_cons.mpr ⟨added, others⟩) nofun

theorem keysOrdered_enter (ordered : ∀ collection ∈ opened, collection.KeysOrdered)
    {inner : Opened} (empty : inner.KeysOrdered) {awaited : Awaited}
    (more : ∀ value, awaited ≠ .nothing value)
    (success : enter opened token inner awaited = .ok next) : next.KeysOrdered := by
  unfold enter at success
  split at success
  · rw [← Except.ok.inj success]
    exact .unfinished (List.forall_mem_cons.mpr ⟨empty, ordered⟩) more
  · cases success

theorem keysOrdered_value (ordered : ∀ collection ∈ opened, collection.KeysOrdered)
    (success : value opened token = .ok next) : next.KeysOrdered := by
  unfold value at success
  split at success
  · exact keysOrdered_enter ordered Opened.keysOrdered_list_nil (by nofun) success
  · exact keysOrdered_enter ordered (Opened.keysOrdered_object_nil "") (by nofun) success
  · exact Except.ok.inj success ▸ keysOrdered_complete ordered keysOrdered_null
  · exact Except.ok.inj success ▸ keysOrdered_complete ordered (keysOrdered_bool _)
  · exact Except.ok.inj success ▸ keysOrdered_complete ordered (keysOrdered_number _)
  · exact Except.ok.inj success ▸ keysOrdered_complete ordered (keysOrdered_string _)
  · cases success
  · cases success
  · cases success

theorem keysOrdered_closeList (ordered : ∀ collection ∈ opened, collection.KeysOrdered) :
    (closeList opened).KeysOrdered := by
  unfold closeList
  split
  · obtain ⟨here, others⟩ := List.forall_mem_cons.mp ordered
    exact keysOrdered_complete others
      (keysOrdered_array.mpr fun item member => here item (List.mem_reverse.mp member))
  · exact .unfinished ordered nofun

/-- A closed object has its members in key order, since it is built by insertions. -/
theorem keysOrdered_closeObject (ordered : ∀ collection ∈ opened, collection.KeysOrdered) :
    (closeObject opened).KeysOrdered := by
  unfold closeObject
  split
  · obtain ⟨here, others⟩ := List.forall_mem_cons.mp ordered
    refine keysOrdered_complete others
      (keysOrdered_object.mpr ⟨Keyed.ordered_ofList _, fun entry member => ?_⟩)
    exact here entry (List.mem_reverse.mp (Keyed.mem_of_mem_ofList member))
  · exact .unfinished ordered nofun

theorem keysOrdered_key (ordered : ∀ collection ∈ opened, collection.KeysOrdered)
    (success : key opened token = .ok next) : next.KeysOrdered := by
  unfold key at success
  split at success
  · rename_i text members _ _ _
    obtain ⟨here, others⟩ := List.forall_mem_cons.mp ordered
    have renamed : (Opened.object members text).KeysOrdered := here
    rw [← Except.ok.inj success]
    exact .unfinished (List.forall_mem_cons.mpr ⟨renamed, others⟩) (by nofun)
  · cases success
  · cases success
  · cases success

/-- What one token does to the values that have been read. -/
theorem keysOrdered_step (ordered : progress.KeysOrdered)
    (success : progress.step token = .ok next) : next.KeysOrdered := by
  obtain ⟨opened, awaited⟩ := progress
  have kept : ∀ collection ∈ opened, collection.KeysOrdered := ordered.opened
  cases awaited with
  | value => exact keysOrdered_value kept success
  | itemOrEnd =>
    simp only [step] at success
    split at success
    · exact Except.ok.inj success ▸ keysOrdered_closeList kept
    · exact keysOrdered_value kept success
  | item =>
    simp only [step] at success
    split at success
    · cases success
    · exact keysOrdered_value kept success
  | listEnd =>
    simp only [step] at success
    split at success
    · exact Except.ok.inj success ▸ keysOrdered_closeList kept
    · exact Except.ok.inj success ▸ .unfinished kept nofun
    · cases success
  | keyOrEnd =>
    simp only [step] at success
    split at success
    · exact Except.ok.inj success ▸ keysOrdered_closeObject kept
    · exact keysOrdered_key kept success
  | key =>
    simp only [step] at success
    split at success
    · cases success
    · exact keysOrdered_key kept success
  | colon =>
    simp only [step] at success
    split at success
    · exact Except.ok.inj success ▸ .unfinished kept nofun
    · cases success
  | objectEnd =>
    simp only [step] at success
    split at success
    · exact Except.ok.inj success ▸ keysOrdered_closeObject kept
    · exact Except.ok.inj success ▸ .unfinished kept nofun
    · cases success
  | nothing value => cases success

/-- What all tokens of a text do to the values that have been read. -/
theorem keysOrdered_foldlM {tokens : List JsonToken} (ordered : progress.KeysOrdered)
    (success : tokens.foldlM step progress = .ok next) : next.KeysOrdered := by
  induction tokens generalizing progress with
  | nil => exact Except.ok.inj success ▸ ordered
  | cons token rest inductionHypothesis =>
    rw [List.foldlM_cons, bind_eq_ok] at success
    obtain ⟨middle, first, success⟩ := success
    exact inductionHypothesis (keysOrdered_step ordered first) success

end Steps

end Progress

/-- A value that was read from a text has its objects in key order. -/
theorem keysOrdered_of_ofText {text : String} {value : Json} (read : ofText text = .ok value) :
    value.KeysOrdered := by
  unfold ofText at read
  rw [bind_eq_ok] at read
  obtain ⟨progress, steps, finished⟩ := read
  have start : Progress.start.KeysOrdered :=
    .unfinished (fun _ member => absurd member List.not_mem_nil) nofun
  have ordered := Progress.keysOrdered_foldlM start steps
  obtain ⟨opened, awaited⟩ := progress
  cases awaited with
  | nothing complete => exact Except.ok.inj finished ▸ ordered.finished complete rfl
  | _ => cases finished

end ConsumerContract.Json
