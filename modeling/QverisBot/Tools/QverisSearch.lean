import QverisBot.Tools.QverisError
import Mathlib.Data.Rat.Defs
import Mathlib.Algebra.Order.Ring.Unbundled.Rat
import Mathlib.Data.List.Chain
import Mathlib.Data.Rat.Encodable

/-! # The search cache of `qveris_search`

`makeSearchCache` and `searchTool.execute` of the QVeris tools (`src/unnamed/part_006`). One
tool instance is a state machine: an execution reads the cache when it starts and, on a miss,
waits for `qverisSearch`; executions interleave at that wait. The runtime's number-to-string
conversion, the tool's configured limit and the payload built from a search response are
parameters. `R` is a search response, `P` a payload.
-/

namespace QverisBot.Tools

/-- `DEFAULT_SEARCH_CACHE_TTL_MS`. -/
def defaultSearchCacheTtlMs : Nat := 90000

structure SearchCacheEntry (P : Type) where
  value : P
  expiresAt : Nat

/-- The cache's `Map`, by key. -/
def SearchCache (P : Type) : Type := String → Option (SearchCacheEntry P)

variable {R P : Type}

def SearchCache.empty : SearchCache P := fun _ => none

/-- `read(key)` at time `now`: an expired entry is deleted and not returned. -/
def SearchCache.read (cache : SearchCache P) (key : String) (now : Nat) : Option P × SearchCache P :=
  match cache key with
  | none => (none, cache)
  | some entry =>
    if entry.expiresAt < now then (none, fun k => if k = key then none else cache k)
    else (some entry.value, cache)

/-- `write(key, value, ttlMs)` at time `now`. -/
def SearchCache.write (cache : SearchCache P) (key : String) (value : P) (ttlMs now : Nat) :
    SearchCache P :=
  fun k => if k = key then some ⟨value, now + ttlMs⟩ else cache k

/-- What the tool takes from the runtime and the rest of the program. -/
structure SearchToolEnv (R P : Type) where
  /-- `resolveSearchLimit(config)`. -/
  searchLimit : ℚ
  /-- `String(n)` for a number. -/
  numberToString : ℚ → String
  /-- Distinct numbers print differently. -/
  numberToString_injective : Function.Injective numberToString
  /-- A printed number holds no `:`. -/
  colon_not_mem : ∀ n, ':' ∉ (numberToString n).data
  /-- The `jsonResult` of the simplified search result. -/
  payload : R → P

/-- `Math.min(Math.max(1, limit), 100)` of the given limit or the configured one. -/
def normalizedLimit (env : SearchToolEnv R P) (limit : Option ℚ) : ℚ :=
  min (max 1 (limit.getD env.searchLimit)) 100

/-- `` `${query}:${normalizedLimit}` ``. -/
def cacheKey (env : SearchToolEnv R P) (query : String) (limit : ℚ) : String :=
  query ++ ":" ++ env.numberToString limit

/-! ## Executions -/

/-- A step of one tool instance: an execution starts (and reads the cache), or the search an
earlier execution waits for settles. Each carries the clock's `Date.now()`. -/
inductive SearchEvent (R : Type)
  | execute (call : Nat) (query : String) (limit : Option ℚ) (now : Nat)
  | settle (call : Nat) (outcome : Except ThrownValue R) (now : Nat)

def SearchEvent.now {R : Type} : SearchEvent R → Nat
  | .execute _ _ _ now => now
  | .settle _ _ now => now

/-- What an execution returns. -/
inductive SearchResult (P : Type)
  /-- `{ ...cached, cached: true }`. -/
  | cached (payload : P)
  | fresh (payload : P)
  | failed (error : QverisErrorResult)

structure SearchToolState (P : Type) where
  cache : SearchCache P
  /-- The executions waiting for `qverisSearch`, with their query and normalized limit. -/
  pending : List (Nat × String × ℚ)

def SearchToolState.initial : SearchToolState P := ⟨SearchCache.empty, []⟩

/-- One step, with what the execution returns when it returns. -/
def searchStep (env : SearchToolEnv R P) (st : SearchToolState P) :
    SearchEvent R → SearchToolState P × Option (SearchResult P)
  | .execute call query limit now =>
    let normalized := normalizedLimit env limit
    let (cached, cache) := st.cache.read (cacheKey env query normalized) now
    match cached with
    | some value => (⟨cache, st.pending⟩, some (.cached value))
    | none => (⟨cache, st.pending ++ [(call, query, normalized)]⟩, none)
  | .settle call outcome now =>
    match st.pending.find? (·.1 = call) with
    | none => (st, none)
    | some (_, query, normalized) =>
      let pending := st.pending.filter (·.1 ≠ call)
      match outcome with
      | .error err => (⟨st.cache, pending⟩, some (.failed (classifyQverisError err)))
      | .ok response =>
        (⟨st.cache.write (cacheKey env query normalized) (env.payload response)
            defaultSearchCacheTtlMs now, pending⟩,
          some (.fresh (env.payload response)))

def runSearch (env : SearchToolEnv R P) (st : SearchToolState P) : List (SearchEvent R) → SearchToolState P
  | [] => st
  | e :: es => runSearch env (searchStep env st e).1 es

/-- What each event of a run returns, in order. -/
def searchResults (env : SearchToolEnv R P) (st : SearchToolState P) :
    List (SearchEvent R) → List (Option (SearchResult P))
  | [] => []
  | e :: es => (searchStep env st e).2 :: searchResults env (searchStep env st e).1 es

/-! ## What the cache is for

The tool as its documentation describes it: a log of what successful searches wrote, with their
times, and the executions that wait. An execution is answered from the log when the latest write
for its query and normalized limit is at most `DEFAULT_SEARCH_CACHE_TTL_MS` old; a search that
fails writes nothing. -/

/-- The payload and time of the last write for a query and normalized limit. -/
def lastWrite (query : String) (limit : ℚ) (writes : List ((String × ℚ × P) × Nat)) :
    Option (P × Nat) :=
  (writes.reverse.find? fun w => w.1.1 = query ∧ w.1.2.1 = limit).map fun w => (w.1.2.2, w.2)

/-- The last write for the pair, if it is still fresh at `now`. -/
def freshPayload (writes : List ((String × ℚ × P) × Nat)) (query : String) (limit : ℚ) (now : Nat) :
    Option P :=
  (lastWrite query limit writes).bind fun w =>
    if now ≤ w.2 + defaultSearchCacheTtlMs then some w.1 else none

structure SearchLog (P : Type) where
  /-- Each successful search's query, normalized limit and payload, and its time. -/
  writes : List ((String × ℚ × P) × Nat)
  waiting : List (Nat × String × ℚ)

def SearchLog.initial : SearchLog P := ⟨[], []⟩

def logStep (env : SearchToolEnv R P) (log : SearchLog P) :
    SearchEvent R → SearchLog P × Option (SearchResult P)
  | .execute call query limit now =>
    let normalized := normalizedLimit env limit
    match freshPayload log.writes query normalized now with
    | some payload => (log, some (.cached payload))
    | none => (⟨log.writes, log.waiting ++ [(call, query, normalized)]⟩, none)
  | .settle call outcome now =>
    match log.waiting.find? (·.1 = call) with
    | none => (log, none)
    | some (_, query, normalized) =>
      let waiting := log.waiting.filter (·.1 ≠ call)
      match outcome with
      | .error err => (⟨log.writes, waiting⟩, some (.failed (classifyQverisError err)))
      | .ok response =>
        (⟨log.writes ++ [((query, normalized, env.payload response), now)], waiting⟩,
          some (.fresh (env.payload response)))

def runLog (env : SearchToolEnv R P) (log : SearchLog P) : List (SearchEvent R) → SearchLog P
  | [] => log
  | e :: es => runLog env (logStep env log e).1 es

def logResults (env : SearchToolEnv R P) (log : SearchLog P) :
    List (SearchEvent R) → List (Option (SearchResult P))
  | [] => []
  | e :: es => (logStep env log e).2 :: logResults env (logStep env log e).1 es

/-! ## The cache key -/

theorem append_colon_inj : ∀ {a b x y : List Char}, ':' ∉ a → ':' ∉ b →
    a ++ ':' :: x = b ++ ':' :: y → a = b ∧ x = y
  | [], [], _, _, _, _, h => ⟨rfl, by simpa using h⟩
  | [], c :: _, _, _, _, hb, h => absurd (List.mem_cons.mpr (.inl (List.cons.inj h).1)) hb
  | c :: _, [], _, _, ha, _, h => absurd (List.mem_cons.mpr (.inl (List.cons.inj h).1.symm)) ha
  | c :: a, d :: b, _, _, ha, hb, h => by
    rw [List.cons_append, List.cons_append, List.cons.injEq] at h
    obtain ⟨rfl, h⟩ := h
    obtain ⟨hab, hxy⟩ := append_colon_inj (fun h' => ha (List.mem_cons_of_mem _ h'))
      (fun h' => hb (List.mem_cons_of_mem _ h')) h
    exact ⟨by rw [hab], hxy⟩

theorem cacheKey_inj (env : SearchToolEnv R P) {q₁ q₂ : String} {l₁ l₂ : ℚ}
    (h : cacheKey env q₁ l₁ = cacheKey env q₂ l₂) : q₁ = q₂ ∧ l₁ = l₂ := by
  have hdata : (env.numberToString l₁).data.reverse ++ ':' :: q₁.data.reverse =
      (env.numberToString l₂).data.reverse ++ ':' :: q₂.data.reverse := by
    simpa [cacheKey] using congrArg (fun s => s.data.reverse) h
  obtain ⟨hl, hq⟩ := append_colon_inj (by simpa using env.colon_not_mem l₁)
    (by simpa using env.colon_not_mem l₂) hdata
  exact ⟨String.ext (List.reverse_inj.mp hq),
    env.numberToString_injective (String.ext (List.reverse_inj.mp hl))⟩

/-! ## The cache against the writes -/

/-- The last write whose query and limit have the key `key`. -/
def lastWriteKey (env : SearchToolEnv R P) (key : String) (writes : List ((String × ℚ × P) × Nat)) :
    Option (P × Nat) :=
  (writes.reverse.find? fun w => cacheKey env w.1.1 w.1.2.1 = key).map fun w => (w.1.2.2, w.2)

theorem lastWriteKey_cacheKey (env : SearchToolEnv R P) (query : String) (limit : ℚ)
    (writes : List ((String × ℚ × P) × Nat)) :
    lastWriteKey env (cacheKey env query limit) writes = lastWrite query limit writes := by
  have hp : (fun w : (String × ℚ × P) × Nat => decide (cacheKey env w.1.1 w.1.2.1 = cacheKey env query limit)) =
      fun w => decide (w.1.1 = query ∧ w.1.2.1 = limit) := by
    funext w
    refine decide_eq_decide.mpr ⟨cacheKey_inj env, ?_⟩
    rintro ⟨h₁, h₂⟩
    rw [h₁, h₂]
  simp only [lastWriteKey, lastWrite, hp]

theorem lastWriteKey_snoc (env : SearchToolEnv R P) (key : String)
    (writes : List ((String × ℚ × P) × Nat)) (w : (String × ℚ × P) × Nat) :
    lastWriteKey env key (writes ++ [w]) =
      if cacheKey env w.1.1 w.1.2.1 = key then some (w.1.2.2, w.2) else lastWriteKey env key writes := by
  by_cases h : cacheKey env w.1.1 w.1.2.1 = key <;> simp [lastWriteKey, h]

/-- A cache entry agrees with the last write of its key at time `clock`: it holds that write,
or it was removed once that write expired. -/
def EntryMatches (clock : Nat) : Option (SearchCacheEntry P) → Option (P × Nat) → Prop
  | none, none => True
  | some entry, some (value, time) =>
    entry.value = value ∧ entry.expiresAt = time + defaultSearchCacheTtlMs
  | none, some (_, time) => time + defaultSearchCacheTtlMs < clock
  | some _, none => False

theorem EntryMatches.mono {clock clock' : Nat} (h : clock ≤ clock') :
    ∀ {entry : Option (SearchCacheEntry P)} {last : Option (P × Nat)},
      EntryMatches clock entry last → EntryMatches clock' entry last
  | none, none, _ => trivial
  | some _, some _, hm => hm
  | none, some _, hm => Nat.lt_of_lt_of_le hm h
  | some _, none, hm => hm

theorem read_matches {cache : SearchCache P} {key : String} {clock now : Nat}
    {last : Option (P × Nat)} (hm : EntryMatches clock (cache key) last) (hnow : clock ≤ now) :
    (cache.read key now).1 =
        last.bind (fun w => if now ≤ w.2 + defaultSearchCacheTtlMs then some w.1 else none) ∧
      EntryMatches now ((cache.read key now).2 key) last ∧
      ∀ k, k ≠ key → (cache.read key now).2 k = cache k := by
  unfold SearchCache.read
  cases hc : cache key with
  | none =>
    rw [hc] at hm
    refine ⟨?_, by dsimp only; rw [hc]; exact EntryMatches.mono hnow hm, fun _ _ => rfl⟩
    cases last with
    | none => rfl
    | some w =>
      have : ¬now ≤ w.2 + defaultSearchCacheTtlMs := by simp only [EntryMatches] at hm; omega
      simp [this]
  | some entry =>
    rw [hc] at hm
    cases last with
    | none => exact absurd hm id
    | some w =>
      obtain ⟨hv, he⟩ := hm
      by_cases hexp : entry.expiresAt < now
      · have : ¬now ≤ w.2 + defaultSearchCacheTtlMs := by omega
        refine ⟨by simp [hexp, this], ?_, fun k hk => by simp [hexp, hk]⟩
        simp only [hexp, if_true, if_pos rfl, EntryMatches]
        omega
      · have : now ≤ w.2 + defaultSearchCacheTtlMs := by omega
        refine ⟨by simp [hexp, this, hv], ?_, fun k _ => by simp [hexp]⟩
        simp only [hexp, if_false, hc]
        exact ⟨hv, he⟩

/-- The cache agrees with the writes so far, which are in time order and not after `clock`. -/
structure CacheInvariant (env : SearchToolEnv R P) (cache : SearchCache P)
    (writes : List ((String × ℚ × P) × Nat)) (clock : Nat) : Prop where
  entries : ∀ key, EntryMatches clock (cache key) (lastWriteKey env key writes)
  ordered : writes.Pairwise fun a b => a.2 ≤ b.2
  le_clock : ∀ w ∈ writes, w.2 ≤ clock

theorem CacheInvariant.mono {env : SearchToolEnv R P} {cache : SearchCache P}
    {writes : List ((String × ℚ × P) × Nat)} {clock clock' : Nat}
    (h : CacheInvariant env cache writes clock) (hle : clock ≤ clock') :
    CacheInvariant env cache writes clock' :=
  ⟨fun key => (h.entries key).mono hle, h.ordered, fun w hw => (h.le_clock w hw).trans hle⟩

theorem CacheInvariant.initial (env : SearchToolEnv R P) :
    CacheInvariant env SearchCache.empty [] 0 :=
  ⟨fun _ => trivial, List.Pairwise.nil, fun _ h => absurd h (List.not_mem_nil _)⟩

theorem CacheInvariant.read {env : SearchToolEnv R P} {cache : SearchCache P}
    {writes : List ((String × ℚ × P) × Nat)} {clock now : Nat}
    (h : CacheInvariant env cache writes clock) (hle : clock ≤ now) (key : String) :
    CacheInvariant env (cache.read key now).2 writes now := by
  obtain ⟨-, hkey, hother⟩ := read_matches (h.entries key) hle
  refine ⟨fun k => ?_, h.ordered, fun w hw => (h.le_clock w hw).trans hle⟩
  by_cases hk : k = key
  · exact hk ▸ hkey
  · rw [hother k hk]
    exact (h.entries k).mono hle

theorem CacheInvariant.write {env : SearchToolEnv R P} {cache : SearchCache P}
    {writes : List ((String × ℚ × P) × Nat)} {clock now : Nat}
    (h : CacheInvariant env cache writes clock) (hle : clock ≤ now) (w : String × ℚ × P) :
    CacheInvariant env (cache.write (cacheKey env w.1 w.2.1) w.2.2 defaultSearchCacheTtlMs now)
      (writes ++ [(w, now)]) now := by
  refine ⟨fun key => ?_, ?_, fun x hx => ?_⟩
  · rw [lastWriteKey_snoc]
    by_cases hk : cacheKey env w.1 w.2.1 = key
    · simp [hk, SearchCache.write, EntryMatches, Nat.add_comm]
    · simp only [hk, if_false, SearchCache.write, Ne.symm hk]
      exact (h.entries key).mono hle
  · refine List.pairwise_append.mpr ⟨h.ordered, List.pairwise_singleton _ _, fun a ha b hb => ?_⟩
    rw [List.mem_singleton.mp hb]
    exact (h.le_clock a ha).trans hle
  · rcases List.mem_append.mp hx with hx | hx
    · exact (h.le_clock x hx).trans hle
    · rw [List.mem_singleton.mp hx]

theorem searchStep_settle_error (env : SearchToolEnv R P) (st : SearchToolState P) (call : Nat)
    (err : ThrownValue) (now : Nat) :
    (searchStep env st (.settle call (.error err) now)).1.cache = st.cache := by
  simp only [searchStep]
  split <;> rfl

/-! ## The tool refines the log -/

/-- The tool's state stands for the log at time `clock`: the same executions wait, and the cache
agrees with the log's writes. -/
structure Represents (env : SearchToolEnv R P) (st : SearchToolState P) (log : SearchLog P)
    (clock : Nat) : Prop where
  pending : st.pending = log.waiting
  cache : CacheInvariant env st.cache log.writes clock

theorem Represents.initial (env : SearchToolEnv R P) :
    Represents env SearchToolState.initial SearchLog.initial 0 :=
  ⟨rfl, CacheInvariant.initial env⟩

theorem Represents.mono {env : SearchToolEnv R P} {st : SearchToolState P} {log : SearchLog P}
    {clock clock' : Nat} (h : Represents env st log clock) (hle : clock ≤ clock') :
    Represents env st log clock' :=
  ⟨h.pending, h.cache.mono hle⟩

/-- **One step.** An event the clock does not go back for returns what the log returns, and the
states still stand for each other. -/
theorem searchStep_refines (env : SearchToolEnv R P) {st : SearchToolState P} {log : SearchLog P}
    {clock : Nat} (h : Represents env st log clock) (e : SearchEvent R) (hle : clock ≤ e.now) :
    (searchStep env st e).2 = (logStep env log e).2 ∧
      Represents env (searchStep env st e).1 (logStep env log e).1 e.now := by
  cases e with
  | execute call query limit now =>
    simp only [SearchEvent.now] at hle ⊢
    obtain ⟨hread, -, -⟩ := read_matches (h.cache.entries (cacheKey env query (normalizedLimit env limit))) hle
    rw [lastWriteKey_cacheKey] at hread
    have hinv := h.cache.read hle (cacheKey env query (normalizedLimit env limit))
    simp only [searchStep, logStep]
    generalize st.cache.read (cacheKey env query (normalizedLimit env limit)) now = r at hread hinv
    obtain ⟨cached, cache⟩ := r
    dsimp only at hread hinv ⊢
    rw [freshPayload, ← hread]
    cases cached with
    | some payload => exact ⟨rfl, h.pending, hinv⟩
    | none => exact ⟨rfl, by rw [h.pending], hinv⟩
  | settle call outcome now =>
    simp only [SearchEvent.now] at hle ⊢
    simp only [searchStep, logStep, h.pending]
    cases log.waiting.find? (·.1 = call) with
    | none => exact ⟨rfl, h.mono hle⟩
    | some entry =>
      obtain ⟨_, query, normalized⟩ := entry
      cases outcome with
      | error err => exact ⟨rfl, rfl, h.cache.mono hle⟩
      | ok response => exact ⟨rfl, rfl, h.cache.write hle (query, normalized, env.payload response)⟩

/-- **A run.** Over a run whose clock never goes back, the tool returns what the log returns at
every event, and ends standing for the log. -/
theorem runSearch_refines (env : SearchToolEnv R P) :
    ∀ (es : List (SearchEvent R)) (st : SearchToolState P) (log : SearchLog P) (clock t : Nat),
      Represents env st log clock → List.Chain (· ≤ ·) clock (es.map SearchEvent.now ++ [t]) →
      searchResults env st es = logResults env log es ∧
        Represents env (runSearch env st es) (runLog env log es) t
  | [], _, _, _, _, h, hc => ⟨rfl, h.mono (List.chain_singleton.mp hc)⟩
  | e :: es, st, log, _, t, h, hc => by
    rw [List.map_cons, List.cons_append, List.chain_cons] at hc
    obtain ⟨hres, hrep⟩ := searchStep_refines env h e hc.1
    obtain ⟨hrest, hfinal⟩ := runSearch_refines env es _ _ _ t hrep hc.2
    exact ⟨by rw [searchResults, logResults, hres, hrest], hfinal⟩

/-! ## The last write of a pair -/

theorem lastWrite_mem {query : String} {limit : ℚ} {writes : List ((String × ℚ × P) × Nat)}
    {payload : P} {time : Nat} (h : lastWrite query limit writes = some (payload, time)) :
    ∃ w ∈ writes, w.1.1 = query ∧ w.1.2.1 = limit ∧ w.2 = time := by
  simp only [lastWrite, Option.map_eq_some'] at h
  obtain ⟨w, hw, hpw⟩ := h
  have hp := List.find?_some hw
  simp only [decide_eq_true_eq] at hp
  exact ⟨w, List.mem_reverse.mp (List.mem_of_find?_eq_some hw), hp.1, hp.2,
    (Prod.mk.inj hpw).2⟩

theorem lastWrite_latest {query : String} {limit : ℚ} {writes : List ((String × ℚ × P) × Nat)}
    (hordered : writes.Pairwise fun a b => a.2 ≤ b.2) {w : (String × ℚ × P) × Nat} (hw : w ∈ writes)
    (hq : w.1.1 = query) (hl : w.1.2.1 = limit) :
    ∃ payload time, lastWrite query limit writes = some (payload, time) ∧ w.2 ≤ time := by
  cases hfind : writes.reverse.find? (fun w => w.1.1 = query ∧ w.1.2.1 = limit) with
  | none =>
    have := List.find?_eq_none.mp hfind w (List.mem_reverse.mpr hw)
    simp [hq, hl] at this
  | some last =>
    refine ⟨last.1.2.2, last.2, by rw [lastWrite, hfind]; rfl, ?_⟩
    obtain ⟨-, before, after, hsplit, hnone⟩ := List.find?_eq_some.mp hfind
    have hrev : writes = after.reverse ++ last :: before.reverse := by
      simpa using congrArg List.reverse hsplit
    rw [hrev] at hw hordered
    rcases List.mem_append.mp hw with hw | hw
    · exact (List.pairwise_append.mp hordered).2.2 w hw last (List.mem_cons_self _ _)
    · rcases List.mem_cons.mp hw with rfl | hw
      · exact le_refl _
      · have := hnone w (List.mem_reverse.mp hw)
        simp [hq, hl] at this

theorem freshPayload_eq_some {writes : List ((String × ℚ × P) × Nat)} {query : String}
    {limit : ℚ} {now : Nat} {payload : P} :
    freshPayload writes query limit now = some payload ↔
      ∃ time, lastWrite query limit writes = some (payload, time) ∧
        now ≤ time + defaultSearchCacheTtlMs := by
  unfold freshPayload
  cases lastWrite query limit writes with
  | none => simp
  | some w =>
    obtain ⟨v, t⟩ := w
    simp only [Option.some_bind, Option.some.injEq, Prod.mk.injEq]
    by_cases h : now ≤ t + defaultSearchCacheTtlMs
    · simp only [if_pos h, Option.some.injEq]
      exact ⟨fun hv => ⟨t, ⟨hv, rfl⟩, h⟩, fun ⟨_, ⟨hv, _⟩, _⟩ => hv⟩
    · simp only [if_neg h]
      exact ⟨nofun, fun ⟨_, ⟨_, ht⟩, h'⟩ => absurd (ht ▸ h') h⟩

theorem logStep_execute_cached (env : SearchToolEnv R P) (log : SearchLog P) (call : Nat)
    (query : String) (limit : Option ℚ) (now : Nat) (payload : P) :
    (logStep env log (.execute call query limit now)).2 = some (.cached payload) ↔
      freshPayload log.writes query (normalizedLimit env limit) now = some payload := by
  simp only [logStep]
  cases freshPayload log.writes query (normalizedLimit env limit) now <;> simp

/-! ## The theorems -/

/-- **The search cache returns the latest fresh payload.** Over every run of one tool instance
whose clock never goes back, each event returns what the log of successful searches says: an
execution returns a cached payload exactly when a search for the same query and normalized limit
was written at most `DEFAULT_SEARCH_CACHE_TTL_MS` before, and the payload is the last one
written for that pair; a failed search writes nothing, and the key tells apart every query and
limit. -/
theorem searchTool_cache (env : SearchToolEnv R P) (pre : List (SearchEvent R)) (call : Nat)
    (query : String) (limit : Option ℚ) (now : Nat)
    (hclock : ((pre ++ [SearchEvent.execute call query limit now]).map SearchEvent.now).Chain' (· ≤ ·)) :
    let writes := (runLog env .initial pre).writes
    let normalized := normalizedLimit env limit
    let result := (searchStep env (runSearch env .initial pre) (.execute call query limit now)).2
    searchResults env .initial (pre ++ [.execute call query limit now]) =
        logResults env .initial (pre ++ [.execute call query limit now]) ∧
      (∀ payload, result = some (.cached payload) ↔
        ∃ time, lastWrite query normalized writes = some (payload, time) ∧
          now ≤ time + defaultSearchCacheTtlMs) ∧
      ((∃ payload, result = some (.cached payload)) ↔
        ∃ w ∈ writes, w.1.1 = query ∧ w.1.2.1 = normalized ∧ now ≤ w.2 + defaultSearchCacheTtlMs) ∧
      (∀ (st : SearchToolState P) (call' : Nat) (err : ThrownValue) (now' : Nat),
        (searchStep env st (.settle call' (.error err) now')).1.cache = st.cache) ∧
      (∀ q₁ q₂ l₁ l₂, cacheKey env q₁ l₁ = cacheKey env q₂ l₂ → q₁ = q₂ ∧ l₁ = l₂) := by
  intro writes normalized result
  have hc : List.Chain (· ≤ ·) 0
      ((pre ++ [SearchEvent.execute call query limit now]).map SearchEvent.now ++ [now]) := by
    refine (List.chain'_append.mpr ⟨hclock, List.chain'_singleton _, fun x hx y hy => ?_⟩).cons'
      fun _ _ => Nat.zero_le _
    simp [SearchEvent.now] at hx hy
    omega
  have hpre : List.Chain (· ≤ ·) 0 (pre.map SearchEvent.now ++ [now]) := by
    rw [List.map_append] at hclock
    exact hclock.cons' fun _ _ => Nat.zero_le _
  obtain ⟨-, hrep⟩ := runSearch_refines env pre .initial .initial 0 now (Represents.initial env) hpre
  have hres : result = (logStep env (runLog env .initial pre) (.execute call query limit now)).2 :=
    (searchStep_refines env hrep (.execute call query limit now) le_rfl).1
  have hcached : ∀ payload, result = some (.cached payload) ↔
      ∃ time, lastWrite query normalized writes = some (payload, time) ∧
        now ≤ time + defaultSearchCacheTtlMs := fun payload => by
    rw [hres, logStep_execute_cached, freshPayload_eq_some]
  refine ⟨(runSearch_refines env _ .initial .initial 0 now (Represents.initial env) hc).1, hcached,
    ⟨?_, ?_⟩, searchStep_settle_error env, fun _ _ _ _ => cacheKey_inj env⟩
  · rintro ⟨payload, hp⟩
    obtain ⟨time, hlast, hnow⟩ := (hcached payload).mp hp
    obtain ⟨w, hw, hq, hl, ht⟩ := lastWrite_mem hlast
    exact ⟨w, hw, hq, hl, ht ▸ hnow⟩
  · rintro ⟨w, hw, hq, hl, hnow⟩
    obtain ⟨payload, time, hlast, hle⟩ := lastWrite_latest hrep.cache.ordered hw hq hl
    exact ⟨payload, (hcached payload).mpr ⟨time, hlast, by omega⟩⟩

/-- A tool whose number printing writes as many `1`s as a number's code, and whose payload is
the response itself. -/
def weatherTool : SearchToolEnv Nat Nat where
  searchLimit := 10
  numberToString q := ⟨List.replicate (Encodable.encode q) '1'⟩
  numberToString_injective _ _ h :=
    Encodable.encode_injective (by simpa using congrArg (fun s : String => s.data.length) h)
  colon_not_mem _ h := absurd (List.eq_of_mem_replicate h) (by decide)
  payload := id

/-- A search for `weather` settles with payload 7 at time 5. -/
def weatherRun : List (SearchEvent Nat) :=
  [.execute 1 "weather" none 0, .settle 1 (.ok 7) 5]

theorem searchTool_cache_weather :
    ((weatherRun ++ [SearchEvent.execute 2 "weather" none 10]).map SearchEvent.now).Chain' (· ≤ ·) ∧
      (searchStep weatherTool (runSearch weatherTool .initial weatherRun)
        (.execute 2 "weather" none 10)).2 = some (.cached 7) :=
  ⟨by simp [weatherRun, SearchEvent.now],
    ((searchTool_cache weatherTool weatherRun 2 "weather" none 10
      (by simp [weatherRun, SearchEvent.now])).2.1 7).mpr ⟨5, by decide, by decide⟩⟩

end QverisBot.Tools
