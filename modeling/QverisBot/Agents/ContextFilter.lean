import QverisBot.Json
import QverisBot.Js.Number
import Mathlib.Data.List.Basic
import Mathlib.Tactic.NormNum.Basic
import Mathlib.Algebra.Ring.Rat

/-! # Retention and turn limits of the agent's context

`src/agents/pi-embedded-runner/context-filter.ts`. The session entries and the config are
parsed JSON, whose numbers `JSON.parse` rounds to doubles, and the arithmetic on timestamps is
JavaScript's. `Number(s)` and `Date.parse(s)` on strings, `Date.now()`, a message's `timestamp`
field, and the two functions of `./history.js` (not in the repository) are parameters, so every
result holds for every behaviour of them. `M` is the type of messages.
-/

namespace QverisBot.Agents

open QverisBot QverisBot.Js

variable {M : Type}

end QverisBot.Agents
