import DatePattern.Proofs.Cache.Requests

/-!
A format cache cannot be told from none, as long as its clock stands still.

Every answer is the one of a cache that is asked for nothing else, since all that was kept before was made from the same
defaults, locale data and time. When the clock is moved, each key keeps the format that it was first given.
-/

namespace DatePattern

/-- What a compilation for a key comes to is the same in all registries made from one source. -/
theorem FormatKey.compile_madeFrom {registry source : Registry} (made : registry.MadeFrom source)
    (key : FormatKey) :
    answer key.compile registry = answer key.compile source.fresh ∧
      (final key.compile registry).MadeFrom source := by
  -- Both answers are the one that all such registries give.
  obtain ⟨given, answers⟩ :=
    Format.uniform_compile source key.pattern key.zone key.locale none
  refine ⟨(answers registry made).trans (answers source.fresh source.madeFrom_fresh).symm, ?_⟩
  exact Format.preserves_compile (Registry.keptByUse_madeFrom source) _ _ _ _ registry made

/-- A compilation changes nothing of what a registry was set up with, whether it succeeds or not. -/
theorem FormatKey.compile_setUpAs {registry source : Registry} (same : registry.SetUpAs source)
    (key : FormatKey) : (final key.compile registry).SetUpAs source :=
  Format.preserves_compile (Registry.keptByUse_setUpAs source) _ _ _ _ registry same

/-- What a new cache answers to a request, over a registry in which nothing was made yet. -/
def Request.renewed (source : Registry) (request : Request) : Except PatternError Format :=
  answer request.perform { registry := source.fresh }

/-- The key of a request that a new cache answers with a format. -/
def Request.compiledKey? (source : Registry) (request : Request) : Option FormatKey :=
  match request.key source, request.renewed source with
  | .ok key, .ok _ => some key
  | _, _ => none

namespace FormatCache

/-- The answers of a cache to requests in a row. -/
def answers (cache : FormatCache) : List Request → List (Except PatternError Format)
  | [] => []
  | request :: rest => answer request.perform cache :: (final request.perform cache).answers rest

/-- A cache after requests in a row. -/
def after (cache : FormatCache) : List Request → FormatCache
  | [] => cache
  | request :: rest => (final request.perform cache).after rest

/-- One more request comes after the others. -/
theorem after_append (cache : FormatCache) (requests : List Request) (request : Request) :
    cache.after (requests ++ [request]) = final request.perform (cache.after requests) := by
  -- The requests before are made one by one, and each of them leaves the cache for the next.
  induction requests generalizing cache with
  | nil => rfl
  | cons first rest ih =>
    rw [List.cons_append, after, after, ih]

/-- A cache in which everything was made from one source. -/
structure Current (cache : FormatCache) (source : Registry) : Prop where
  /-- What the registry has was made from the source. -/
  registry : cache.registry.MadeFrom source
  /-- The customary patterns are those of the locale data. -/
  styles : cache.styles.All fun key pattern => source.stylePattern? key = some pattern
  /-- Each format is what a compilation from nothing comes to. -/
  formats : cache.formats.All fun key format => answer key.compile source.fresh = .ok format
  /-- Each key has one format. -/
  nodup : cache.formats.keys.Nodup

/-- A cache in which everything was made from one source was set up as that source. -/
theorem Current.rooted {cache : FormatCache} {source : Registry} (current : cache.Current source) :
    cache.Rooted source := ⟨current.registry.toSetUpAs, current.styles⟩

/-- A new cache has nothing that could have been made from something else. -/
theorem current_new {registry source : Registry} (made : registry.MadeFrom source) :
    Current { registry } source :=
  ⟨made, OnceMap.all_empty _, OnceMap.all_empty _, List.nodup_nil⟩

/-- A request is answered by what its key compiles to, and leaves a cache of which the same is true. -/
theorem Current.step {cache : FormatCache} {source : Registry} (current : cache.Current source)
    (request : Request) :
    answer request.perform cache =
        (request.key source >>= fun key => answer key.compile source.fresh) ∧
      (final request.perform cache).Current source ∧
      ∀ key, key ∈ (final request.perform cache).formats.keys ↔
        key ∈ cache.formats.keys ∨
          request.key source = .ok key ∧ ∃ format, answer key.compile source.fresh = .ok format := by
  -- Each outcome answers by what its key compiles to, and only a new format adds a key.
  have outcome := request.outcome current.rooted
  unfold answer final
  generalize request.perform cache = result at outcome
  cases outcome with
  | keyless unknown =>
    -- Nothing is changed, and no key is there that could be new.
    rw [unknown]
    refine ⟨rfl, current, ?_⟩
    simp
  | @kept key format styles known rooted present =>
    have right := current.formats key format present
    rw [known]
    refine ⟨right.symm, ⟨current.registry, rooted.styles, current.formats, current.nodup⟩, ?_⟩
    -- The key that was asked for is one of those that are there.
    intro other
    constructor
    · exact .inl
    · intro either
      rcases either with own | ⟨same, -⟩
      · exact own
      · cases same
        exact OnceMap.mem_keys_iff.mpr ⟨format, present⟩
  | @made key format styles registry known rooted missing compiled =>
    obtain ⟨same, later⟩ := key.compile_madeFrom current.registry
    obtain ⟨answered, left⟩ := ended_ok compiled
    rw [answered] at same
    rw [left] at later
    rw [known]
    refine ⟨same, ⟨later, rooted.styles, current.formats.insert same.symm,
      OnceMap.nodup_keys_insert current.nodup key format⟩, ?_⟩
    -- The key that was asked for is the new one.
    intro other
    rw [OnceMap.mem_keys_insert]
    constructor
    · intro either
      rcases either with own | rfl
      · exact .inl own
      · exact .inr ⟨rfl, format, same.symm⟩
    · intro either
      rcases either with own | ⟨asked, -⟩
      · exact .inl own
      · cases asked
        exact .inr rfl
  | @failed key reason styles registry known rooted missing compiled =>
    obtain ⟨same, later⟩ := key.compile_madeFrom current.registry
    obtain ⟨answered, left⟩ := ended_error compiled
    rw [answered] at same
    rw [left] at later
    rw [known]
    refine ⟨same, ⟨later, rooted.styles, current.formats, current.nodup⟩, ?_⟩
    -- A key that does not compile is no key of the cache.
    intro other
    constructor
    · exact .inl
    · intro either
      rcases either with own | ⟨asked, format, compiles⟩
      · exact own
      · cases asked
        have impossible := same.trans compiles
        cases impossible

end FormatCache

/-- What a new cache answers is what the key compiles to. -/
theorem Request.renewed_eq (source : Registry) (request : Request) :
    request.renewed source =
      (request.key source >>= fun key => answer key.compile source.fresh) :=
  -- A new cache is current, and takes one step.
  ((FormatCache.current_new source.madeFrom_fresh).step request).1

/-- A request has a compiled key if it has a key, and that key compiles. -/
theorem Request.compiledKey?_eq_some {source : Registry} {request : Request} {key : FormatKey} :
    request.compiledKey? source = some key ↔
      request.key source = .ok key ∧ ∃ format, answer key.compile source.fresh = .ok format := by
  unfold compiledKey?
  rw [renewed_eq]
  cases request.key source with
  | error reason => simp
  | ok own =>
    show (match (Except.ok own : Except PatternError FormatKey), answer own.compile source.fresh with
      | .ok key, .ok _ => some key
      | _, _ => none) = some key ↔ _
    cases compiled : answer own.compile source.fresh with
    | error reason =>
      -- The only key there could be is the one that does not compile.
      constructor
      · intro impossible
        cases impossible
      · intro given
        obtain ⟨same, format, compiles⟩ := given
        cases same
        rw [compiled] at compiles
        cases compiles
    | ok format =>
      constructor
      · intro same
        cases same
        exact ⟨rfl, format, compiled⟩
      · intro given
        cases given.1
        rfl

namespace FormatCache

/-- Requests in a row are answered as by new caches, and the keys afterwards are those that compiled. -/
theorem Current.run {cache : FormatCache} {source : Registry} (current : cache.Current source)
    (requests : List Request) :
    cache.answers requests = requests.map (·.renewed source) ∧
      (cache.after requests).Current source ∧
      ∀ key, key ∈ (cache.after requests).formats.keys ↔
        key ∈ cache.formats.keys ∨ key ∈ requests.filterMap (·.compiledKey? source) := by
  -- What is true of the cache after one request is true of it before the next.
  induction requests generalizing cache with
  | nil =>
    refine ⟨rfl, current, ?_⟩
    simp [after]
  | cons request rest ih =>
    obtain ⟨answered, next, keys⟩ := current.step request
    obtain ⟨others, last, later⟩ := ih next
    refine ⟨?_, last, ?_⟩
    · rw [answers, answered, others, List.map_cons, Request.renewed_eq]
    · intro key
      -- A key came with the first request, or with one of the others.
      rw [after, later, keys, ← Request.compiledKey?_eq_some, List.filterMap_cons]
      cases request.compiledKey? source with
      | none => simp
      | some own => simp [or_assoc, eq_comm]

/-- A request that is answered with an error leaves the count of formats, and every later answer. -/
theorem Current.run_of_error {cache : FormatCache} {source : Registry}
    (current : cache.Current source) {request : Request} {reason : PatternError}
    (failed : answer request.perform cache = .error reason) :
    (final request.perform cache).size = cache.size ∧
      ∀ later, (final request.perform cache).answers later = cache.answers later := by
  obtain ⟨answered, next, keys⟩ := current.step request
  refine ⟨?_, ?_⟩
  · -- No key was added, since the key of the request does not compile.
    have same : ∀ key, key ∈ (final request.perform cache).formats.keys ↔
        key ∈ cache.formats.keys := by
      intro key
      rw [keys]
      constructor
      · intro either
        rcases either with own | ⟨known, format, compiles⟩
        · exact own
        · rw [answered, known] at failed
          rw [show (Except.ok key >>= fun key => answer key.compile source.fresh) =
            answer key.compile source.fresh from rfl, compiles] at failed
          cases failed
      · exact .inl
    have count := OnceMap.size_eq_dedup_length next.nodup same
    rw [List.dedup_eq_self.mpr current.nodup] at count
    rw [size, count, OnceMap.keys, List.length_map, size, OnceMap.size]
  · -- Both caches answer as new ones do.
    intro later
    rw [(next.run later).1, (current.run later).1]

/-- What can befall a cache: a request, or a change of its clock. -/
inductive Event where
  /-- A request is made. -/
  | request (request : Request)
  /-- The clock is set to a time, in milliseconds since the epoch. -/
  | clock (now : Int)

/-- A cache after an event. -/
def apply (cache : FormatCache) : Event → FormatCache
  | .request request => final request.perform cache
  | .clock now => { cache with registry := { cache.registry with now := now } }

/-- A format that is kept is the answer to every request for its key. -/
theorem Rooted.answer_of_kept {cache : FormatCache} {source : Registry}
    (rooted : cache.Rooted source) {request : Request} {key : FormatKey} {format : Format}
    (known : request.key source = .ok key) (present : cache.formats.get? key = some format) :
    answer request.perform cache = .ok format := by
  have outcome := request.outcome rooted
  unfold answer
  generalize request.perform cache = result at outcome
  -- The key is the one of the request, and it is there.
  cases outcome with
  | keyless unknown =>
    rw [known] at unknown
    cases unknown
  | kept own _ found =>
    rw [known] at own
    cases own
    rw [present] at found
    cases found
    rfl
  | made own _ missing _ =>
    rw [known] at own
    cases own
    rw [present] at missing
    cases missing
  | failed own _ missing _ =>
    rw [known] at own
    cases own
    rw [present] at missing
    cases missing

/-- A request that is answered with a format has a key. -/
theorem Rooted.key_of_ok {cache : FormatCache} {source : Registry} (rooted : cache.Rooted source)
    {request : Request} {format : Format} (answered : answer request.perform cache = .ok format) :
    ∃ key, request.key source = .ok key := by
  -- Without a key the answer would be an error.
  have outcome := request.outcome rooted
  unfold answer at answered
  generalize request.perform cache = result at outcome answered
  cases outcome with
  | keyless unknown => cases answered
  | kept known _ _ => exact ⟨_, known⟩
  | made known _ _ _ => exact ⟨_, known⟩
  | failed known _ _ _ => exact ⟨_, known⟩

/-- A request leaves what a cache was set up with and the formats that it keeps, and keeps its own format. -/
theorem Rooted.step {cache : FormatCache} {source : Registry} (rooted : cache.Rooted source)
    (request : Request) :
    (final request.perform cache).Rooted source ∧
      (∀ key format, cache.formats.get? key = some format →
        (final request.perform cache).formats.get? key = some format) ∧
      ∀ key format, request.key source = .ok key → answer request.perform cache = .ok format →
        (final request.perform cache).formats.get? key = some format := by
  -- Formats are only added, and the registry keeps its defaults and its locale data.
  have outcome := request.outcome rooted
  unfold answer final
  generalize request.perform cache = result at outcome
  cases outcome with
  | keyless unknown =>
    refine ⟨rooted, fun _ _ present => present, ?_⟩
    intro key format known
    rw [known] at unknown
    cases unknown
  | kept own styled found =>
    refine ⟨styled, fun _ _ present => present, ?_⟩
    intro key format known answered
    rw [known] at own
    cases own
    cases answered
    exact found
  | @made key format styles registry own styled missing compiled =>
    have left := (ended_ok compiled).2
    have same := key.compile_setUpAs rooted.registry
    rw [left] at same
    refine ⟨⟨same, styled.styles⟩,
      fun _ _ present => OnceMap.get?_insert_of_some present key format, ?_⟩
    -- The new format is there, under the key that was missing.
    intro other given known answered
    rw [known] at own
    cases own
    cases answered
    exact OnceMap.get?_insert_of_missing missing format
  | @failed key reason styles registry own styled missing compiled =>
    have left := (ended_error compiled).2
    have same := key.compile_setUpAs rooted.registry
    rw [left] at same
    refine ⟨⟨same, styled.styles⟩, fun _ _ present => present, ?_⟩
    intro other given known answered
    cases answered

/-- Whatever befalls a cache, it keeps what it was set up with and the formats that it has. -/
theorem Rooted.run {cache : FormatCache} {source : Registry} (rooted : cache.Rooted source)
    (events : List Event) :
    (events.foldl apply cache).Rooted source ∧
      ∀ key format, cache.formats.get? key = some format →
        (events.foldl apply cache).formats.get? key = some format := by
  -- Each event leaves a cache that the later ones find set up as before.
  induction events generalizing cache with
  | nil => exact ⟨rooted, fun _ _ present => present⟩
  | cons event rest ih =>
    rw [List.foldl_cons]
    cases event with
    | request request =>
      obtain ⟨next, kept, -⟩ := rooted.step request
      obtain ⟨last, stay⟩ := ih next
      exact ⟨last, fun key format present => stay key format (kept key format present)⟩
    | clock now =>
      -- The time is no part of what a cache was set up with.
      exact ih ⟨⟨rooted.registry.defaults, rooted.registry.localeData, rooted.registry.regions,
        rooted.registry.refusal?⟩, rooted.styles⟩

/-- A format cache cannot be told from none.

As long as its clock stands still, a cache answers each request as a new cache over a new registry does, has as many
formats as there are different keys that compiled, and after a request that failed it is as it was. When its clock is
moved, a key that was answered with a format has that format from then on. -/
theorem transparent (registry : Registry) :
    (registry.MadeFrom registry → ∀ requests,
      ({ registry } : FormatCache).answers requests = requests.map (·.renewed registry) ∧
      (({ registry } : FormatCache).after requests).size =
        (requests.filterMap (·.compiledKey? registry)).dedup.length ∧
      ∀ request reason,
        answer request.perform (({ registry } : FormatCache).after requests) = .error reason →
        (({ registry } : FormatCache).after (requests ++ [request])).size =
            (({ registry } : FormatCache).after requests).size ∧
          ∀ later, (({ registry } : FormatCache).after (requests ++ [request])).answers later =
            (({ registry } : FormatCache).after requests).answers later) ∧
    ∀ (early late : List Event) (request again : Request) (format : Format),
      answer request.perform (early.foldl apply { registry }) = .ok format →
      again.key registry = request.key registry →
      answer again.perform ((early ++ .request request :: late).foldl apply { registry }) =
        .ok format := by
  refine ⟨?_, ?_⟩
  · intro made requests
    obtain ⟨answered, current, keys⟩ := (current_new made).run requests
    refine ⟨answered, ?_, ?_⟩
    · -- A new cache has no keys, so all of them came with the requests.
      refine OnceMap.size_eq_dedup_length current.nodup ?_
      intro key
      rw [keys]
      simp [OnceMap.keys, OnceMap.empty]
    · intro request reason failed
      rw [after_append]
      exact current.run_of_error failed
  · intro early late request again format answered same
    have rooted : Rooted { registry } registry := ⟨.refl registry, OnceMap.all_empty _⟩
    obtain ⟨begun, -⟩ := rooted.run early
    obtain ⟨next, -, own⟩ := begun.step request
    obtain ⟨last, kept⟩ := next.run late
    rw [List.foldl_append, List.foldl_cons]
    -- A request that was answered with a format has a key, which keeps that format.
    obtain ⟨key, known⟩ := begun.key_of_ok answered
    exact last.answer_of_kept (same.trans known) (kept key format (own key format known answered))

/-- A new cache of American English in UTC, for which no expression with numeric offsets can be built. -/
private def unzoned : FormatCache :=
  { registry := { builtin.registry.fresh with
      refusal? := fun alternatives => if alternatives.numeric then some "too long" else none } }

/--
Of six requests three have different keys that compile.

The letter b has no meaning, and names of months are made into a matcher before that of zones is refused.
-/
theorem transparent_unzoned :
    unzoned.registry.MadeFrom unzoned.registry ∧
      (unzoned.after [.pattern "yyyy" none none, .pattern "b" none none,
        .pattern "MMM z" none none, .date .short none none, .time .short none none,
        .pattern "yyyy" (some .utc) (some .americanEnglish)]).size = 3 ∧
      answer (Request.perform (.pattern "MMM z" none none)) unzoned =
        .error (.matcher "zone names in en_US" "too long") := by
  have made : unzoned.registry.MadeFrom unzoned.registry := unzoned.registry.madeFrom_fresh
  have counted := ((transparent unzoned.registry).1 made
    [.pattern "yyyy" none none, .pattern "b" none none, .pattern "MMM z" none none,
      .date .short none none, .time .short none none,
      .pattern "yyyy" (some .utc) (some .americanEnglish)]).2.1
  refine ⟨made, counted.trans ?_, ?_⟩
  · -- The last request is the first one with its defaults filled in.
    decide +kernel
  · rfl

end FormatCache

end DatePattern
