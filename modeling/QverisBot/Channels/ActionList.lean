import QverisBot.Channels.MessageActions
import Mathlib.Data.List.Basic
import Mathlib.Data.List.Nodup

/-! # The action list of the loaded plugins

`listChannelMessageActions` adds every declared action to a `Set` seeded with the built-ins.
The result is described against the actions in the order the loop meets them
(`declaredActions`): the first occurrences, each once, in that order.
-/

namespace QverisBot.Channels

variable {Cfg R : Type}

/-- What `plugin.actions?.listActions?.({ cfg })` declares; nothing when it is absent. -/
def pluginActions (plugin : ChannelPlugin Cfg R) (cfg : Cfg) : List String :=
  ((plugin.actions.bind (·.listActions)).map (· cfg)).getD []

/-- The built-ins, then each plugin's actions in registry order. -/
def declaredActions (plugins : List (ChannelPlugin Cfg R)) (cfg : Cfg) : List String :=
  ["send", "broadcast"] ++ plugins.flatMap (pluginActions · cfg)

/-- `acc` holds the first occurrences of `seen`, once each, in the order they occur. -/
structure FirstOccurrences (seen acc : List String) : Prop where
  nodup : acc.Nodup
  mem_iff : ∀ a, a ∈ acc ↔ a ∈ seen
  ordered : acc.Pairwise fun a b => seen.indexOf a < seen.indexOf b

namespace FirstOccurrences

variable {seen acc : List String}

theorem insert (h : FirstOccurrences seen acc) (x : String) :
    FirstOccurrences (seen ++ [x]) (if x ∈ acc then acc else acc ++ [x]) := by
  have keep : ∀ a ∈ acc, (seen ++ [x]).indexOf a = seen.indexOf a :=
    fun a ha => List.indexOf_append_of_mem ((h.mem_iff a).mp ha)
  have ordered : acc.Pairwise fun a b => (seen ++ [x]).indexOf a < (seen ++ [x]).indexOf b :=
    h.ordered.imp_of_mem fun ha hb hab => by rwa [keep _ ha, keep _ hb]
  split
  · case isTrue hx =>
    refine ⟨h.nodup, fun a => ?_, ordered⟩
    rw [h.mem_iff, List.mem_append, List.mem_singleton]
    exact ⟨.inl, fun | .inl h' => h' | .inr rfl => (h.mem_iff a).mp hx⟩
  · case isFalse hx =>
    have hseen : x ∉ seen := fun hs => hx ((h.mem_iff x).mpr hs)
    refine ⟨List.concat_eq_append acc x ▸ h.nodup.concat hx, fun a => by simp [h.mem_iff], ?_⟩
    refine List.pairwise_append.mpr ⟨ordered, List.pairwise_singleton _ _, ?_⟩
    intro a ha b hb
    rw [List.mem_singleton.mp hb, keep _ ha, List.indexOf_append_of_not_mem hseen]
    have := List.indexOf_lt_length.mpr ((h.mem_iff a).mp ha)
    simp only [List.indexOf_cons_self]
    omega

theorem insertAll (h : FirstOccurrences seen acc) (list : List String) :
    FirstOccurrences (seen ++ list)
      (list.foldl (fun acc action => if action ∈ acc then acc else acc ++ [action]) acc) := by
  induction list generalizing seen acc with
  | nil => simpa using h
  | cons x xs ih => simpa using ih (h.insert x)

end FirstOccurrences

theorem prefix_foldl_insert (acc list : List String) :
    acc <+: list.foldl (fun acc action => if action ∈ acc then acc else acc ++ [action]) acc := by
  induction list generalizing acc with
  | nil => exact List.prefix_refl acc
  | cons x xs ih =>
    refine List.IsPrefix.trans ?_ (ih _)
    dsimp only
    split
    · exact List.prefix_refl acc
    · exact List.prefix_append acc [x]

theorem listChannelMessageActions_loop (cfg : Cfg) (plugins : List (ChannelPlugin Cfg R))
    {seen acc : List String} (h : FirstOccurrences seen acc) :
    let loop := plugins.foldl (fun acc plugin =>
      match plugin.actions.bind (·.listActions) with
      | none => acc
      | some list =>
        (list cfg).foldl (fun acc action => if action ∈ acc then acc else acc ++ [action]) acc) acc
    FirstOccurrences (seen ++ plugins.flatMap (pluginActions · cfg)) loop ∧ acc <+: loop := by
  induction plugins generalizing seen acc with
  | nil =>
    simp only [List.flatMap_nil, List.append_nil, List.foldl_nil]
    exact ⟨h, List.prefix_refl acc⟩
  | cons plugin rest ih =>
    simp only [List.foldl_cons, List.flatMap_cons, ← List.append_assoc]
    cases hl : plugin.actions.bind (·.listActions) with
    | none =>
      simpa [pluginActions, hl] using ih h
    | some list =>
      have step := ih (h.insertAll (list cfg))
      simp only [pluginActions, hl, Option.map_some', Option.getD_some]
      exact ⟨step.1, (prefix_foldl_insert acc (list cfg)).trans step.2⟩

/-! ## The theorems -/

/-- **The action list.** Over every registry and config: no action twice, the built-ins
first, exactly the built-ins and every declared action, each at its first occurrence in
registry order. -/
theorem listChannelMessageActions_first_occurrences (plugins : List (ChannelPlugin Cfg R))
    (cfg : Cfg) :
    let actions := listChannelMessageActions plugins cfg
    actions.Nodup ∧ ["send", "broadcast"] <+: actions ∧
      (∀ a, a ∈ actions ↔ a = "send" ∨ a = "broadcast" ∨
        ∃ plugin ∈ plugins, ∃ list, plugin.actions.bind (·.listActions) = some list ∧
          a ∈ list cfg) ∧
      actions.Pairwise fun a b =>
        (declaredActions plugins cfg).indexOf a < (declaredActions plugins cfg).indexOf b := by
  have init : FirstOccurrences ["send", "broadcast"] ["send", "broadcast"] :=
    ⟨by decide, fun _ => Iff.rfl, by decide⟩
  obtain ⟨h, hpre⟩ := listChannelMessageActions_loop cfg plugins init
  refine ⟨h.nodup, hpre, fun a => (h.mem_iff a).trans ?_, h.ordered⟩
  simp only [List.mem_append, List.mem_cons, List.mem_singleton, List.not_mem_nil, or_false,
    List.mem_flatMap, pluginActions, or_assoc]
  refine or_congr_right (or_congr_right (exists_congr fun plugin => and_congr_right fun _ => ?_))
  cases plugin.actions.bind (·.listActions) <;> simp

end QverisBot.Channels
