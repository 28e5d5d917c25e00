import ClassScript.Proofs.Collections.Methods
import ClassScript.Proofs.Memory.KeyedMaps

/-!
# Views of maps

`keySet()` and `values()` show the entries of a map as two lists. What they show is what look-ups
find, since each entry is under the key of its key value (`MapEntries.Keyed`). This is how a map
without entries starts, and every step that a map takes keeps it (`MapStep`, `MapStep.keyed`): a
value is put, by the method or by an index, a key is removed, or something else happens in the heap.

Main statement: `map_views_agree`.
-/

namespace ClassScript

open Relation (ReflTransGen)

/-! ## Steps of a map -/

/-- A step in the life of the map `id`: a call of `put` or of `remove`, an assignment to an index,
or anything else that leaves the map alone and changes no key. -/
inductive MapStep (env : Env) (calls : Calls) (id : ObjectId) : Machine → Machine → Prop
  | put {m : Machine} {k v : Value} {old : Option Value} {w : World} :
      Native.call env.toHost ⟨some id, [k, v]⟩ .mapPut m.world = .ok old w →
      MapStep env calls id m { m with world := w }
  | remove {m : Machine} {k : Value} {old : Option Value} {w : World} :
      Native.call env.toHost ⟨some id, [k]⟩ .mapRemove m.world = .ok old w →
      MapStep env calls id m { m with world := w }
  | store {m m' : Machine} {k v : Value} : calls.store env v (.entry id k) m = .ok () m' →
      MapStep env calls id m m'
  | other {m m' : Machine} :
      (m'.world.heap.get id).payload = (m.world.heap.get id).payload →
      m.world.heap.KeepsKeys m'.world.heap → MapStep env calls id m m'

/-- The object is a map whose entries are keyed. -/
def Heap.KeyedMap (h : Heap) (id : ObjectId) : Prop :=
  ∃ es, h.map id = .ok es ∧ MapEntries.Keyed h es

namespace Heap.KeyedMap

variable {h h' : Heap} {id : ObjectId} {es : List MapEntry}

theorem empty (hm : h.map id = .ok []) : h.KeyedMap id := ⟨[], hm, .nil h⟩

/-- The map has other entries, which are keyed as well. -/
theorem renew (hm : h.map id = .ok es) {es' : List MapEntry} (he : MapEntries.Keyed h es') :
    (h.setPayload id (.map es')).KeyedMap id := by
  have hp := map_eq_ok.1 hm
  refine ⟨es', map_eq_ok.2 (payload_setPayload (by simp [hp]) _), he.keeps ?_⟩
  exact keepsKeys_setPayload _ (by rw [hp]; rfl)

theorem keeps (hk : h.KeyedMap id) (same : (h'.get id).payload = (h.get id).payload)
    (keeps : h.KeepsKeys h') : h'.KeyedMap id := by
  obtain ⟨es, hm, he⟩ := hk
  exact ⟨es, map_eq_ok.2 (same.trans (map_eq_ok.1 hm)), he.keeps keeps⟩

end Heap.KeyedMap

theorem MapStep.keyed {env : Env} {calls : Calls} {id : ObjectId} {m m' : Machine}
    (step : MapStep env calls id m m') (hk : m.world.heap.KeyedMap id) :
    m'.world.heap.KeyedMap id := by
  cases step with
  | @put k v old w hput =>
    obtain ⟨es, hm, he⟩ := hk
    rw [Native.call_mapPut _ hm] at hput
    split at hput
    · rename_i κ hκ
      cases hput
      exact .renew hm (he.insert v hκ)
    · cases hput
  | @remove k old w hremove =>
    obtain ⟨es, hm, he⟩ := hk
    rw [Native.call_mapRemove _ hm] at hremove
    split at hremove
    · cases hremove
      exact .renew hm (he.erase _)
    · cases hremove
  | @store _ k v hstore =>
    obtain ⟨es, hm, he⟩ := hk
    cases hκ : m.world.heap.mapKey k with
    | ok κ =>
      rw [Calls.store_entry v hκ hm] at hstore
      cases hstore
      exact .renew hm (he.insert v hκ)
    | error e =>
      rw [Calls.store_entry_of_error v hκ] at hstore
      cases hstore
  | other same keeps => exact hk.keeps same keeps

theorem MapStep.keyed_of_steps {env : Env} {calls : Calls} {id : ObjectId} {m m' : Machine}
    (steps : ReflTransGen (MapStep env calls id) m m') (hk : m.world.heap.KeyedMap id) :
    m'.world.heap.KeyedMap id := by
  induction steps with
  | refl => exact hk
  | tail _ step ih => exact step.keyed ih

/-! ## The views -/

namespace MapEntries.Keyed

variable {h : Heap} {es : List MapEntry}

/-- Each entry is found under its key value. -/
theorem find?_eq (hes : Keyed h es) {e : MapEntry} (he : e ∈ es) :
    ∃ κ, h.mapKey e.keyValue = .ok κ ∧ find? es κ = some e := by
  obtain ⟨κ, hκ, heκ⟩ := hes.own e he
  exact ⟨κ, hκ, hes.sorted.find?_eq he heκ⟩

/-- The key values are keys, each that of its entry. -/
theorem mapM_mapKey (hes : Keyed h es) : ∃ κs, (es.map MapEntry.keyValue).mapM h.mapKey = .ok κs ∧
    List.Forall₂ (fun e κ => e.key.cmp κ = .eq) es κs := by
  obtain ⟨-, own⟩ := hes
  induction es with
  | nil => exact ⟨[], rfl, .nil⟩
  | cons e es ih =>
    obtain ⟨κ, hκ, he⟩ := own e List.mem_cons_self
    obtain ⟨κs, hκs, hes⟩ := ih fun e he => own e (List.mem_cons_of_mem _ he)
    refine ⟨κ :: κs, ?_, .cons he hes⟩
    rw [List.map_cons, List.mapM_cons, hκ, hκs]
    rfl

end MapEntries.Keyed

/-- Keys that are the same as those of ordered entries are in order. -/
theorem MapEntries.Sorted.pairwise_of_forall₂ {es : List MapEntry} {κs : List MapKey}
    (hs : Sorted es) (same : List.Forall₂ (fun e κ => e.key.cmp κ = .eq) es κs) :
    κs.Pairwise fun κ κ' => κ.cmp κ' = .lt := by
  induction same with
  | nil => exact .nil
  | @cons e κ es κs he hes ih =>
    obtain ⟨above, hs⟩ := List.pairwise_cons.1 hs
    refine List.pairwise_cons.2 ⟨fun κ' hκ' => ?_, ih hs⟩
    obtain ⟨e', he', he'κ⟩ := exists_of_forall₂ hes.flip hκ'
    exact Std.TransCmp.lt_of_eq_of_lt (Std.OrientedCmp.eq_symm he)
      (Std.TransCmp.lt_of_lt_of_eq (above e' he') he'κ)

/-- Calling `size()`, then `keySet()`, then `values()` gives a number and two lists and leads to the
world `w'`, where the two lists and look-ups agree: both have that number of items; at each position
the one list has a key and the other the value that is found under it; and the keys increase. -/
structure Native.Views (host : Host) (id : ObjectId) (w w' : World) (keys values : Array Value) :
    Prop where
  calls : ∃ n keysId valuesId w₁ w₂,
    call host ⟨some id, []⟩ .mapSize w = .ok (some n) w₁ ∧
    call host ⟨some id, []⟩ .mapKeySet w₁ = .ok (some (.object keysId)) w₂ ∧
    call host ⟨some id, []⟩ .mapValues w₂ = .ok (some (.object valuesId)) w' ∧
    w'.heap.integer? n = some (Int64.ofNat keys.size) ∧
    w'.heap.list keysId = .ok keys ∧ w'.heap.list valuesId = .ok values
  size : values.size = keys.size
  get : ∀ (i : Nat) (k v : Value), keys[i]? = some k → values[i]? = some v →
    call host ⟨some id, [k]⟩ .mapGet w' = .ok (some v) w'
  contains : ∀ k ∈ keys, ∃ b w'', call host ⟨some id, [k]⟩ .mapContainsKey w' = .ok (some b) w'' ∧
    w''.heap.boolean? b = some true
  increasing : ∃ κs, keys.toList.mapM w'.heap.mapKey = .ok κs ∧
    κs.Pairwise fun κ κ' => κ.cmp κ' = .lt

/-- The number and the two lists are made one after the other, and the map is left as it is. -/
theorem Native.views_made (host : Host) {id : ObjectId} {w : World} {es : List MapEntry}
    (hm : w.heap.map id = .ok es) : ∃ n keysId valuesId w₁ w₂ w',
      call host ⟨some id, []⟩ .mapSize w = .ok (some n) w₁ ∧
      call host ⟨some id, []⟩ .mapKeySet w₁ = .ok (some (.object keysId)) w₂ ∧
      call host ⟨some id, []⟩ .mapValues w₂ = .ok (some (.object valuesId)) w' ∧
      w'.heap.integer? n = some (Int64.ofNat es.length) ∧
      w'.heap.list keysId = .ok (es.map MapEntry.keyValue).toArray ∧
      w'.heap.list valuesId = .ok (es.map MapEntry.value).toArray ∧
      w'.heap.map id = .ok es ∧ w.heap.KeepsKeys w'.heap := by
  generalize ho₁ : Object.make host.prims.integer [] (.integer (Int64.ofNat es.length)) = o₁
  have hm₁ := World.map_make hm o₁
  generalize hw₁ : w.make o₁ = w₁ at hm₁
  have lt₁ : w.heap.objects.size < w₁.heap.objects.size := by
    rw [← hw₁, World.size_make]
    exact Nat.lt_succ_self _
  have size := Native.call_mapSize host hm
  have keys := Native.call_mapKeySet host hm₁
  generalize ho₂ : Object.make _ _ (.list (es.map MapEntry.keyValue).toArray) = o₂ at keys
  have hm₂ := World.map_make hm₁ o₂
  have values := Native.call_mapValues host hm₂
  generalize ho₃ : Object.make _ _ (.list (es.map MapEntry.value).toArray) = o₃ at values
  have lt₂ : w₁.heap.objects.size < (w₁.make o₂).heap.objects.size := by
    rw [World.size_make]
    exact Nat.lt_succ_self _
  rw [ho₁, hw₁] at size
  refine ⟨_, _, _, _, _, _, size, keys, values, ?_, ?_, ?_, World.map_make hm₂ o₃, ?_⟩
  · have there : ((w₁.make o₂).make o₃).heap.get w.heap.objects.size = o₁ := by
      rw [World.get_make (Nat.lt_trans lt₁ lt₂), World.get_make lt₁, ← hw₁, World.get_make_self]
    simp only [Heap.integer?, Heap.payload?, there, ← ho₁, Object.make]
  · rw [Heap.list_eq_ok, World.get_make lt₂, World.get_make_self, ← ho₂]
    rfl
  · rw [Heap.list_eq_ok, World.get_make_self, ← ho₃]
    rfl
  · rw [← hw₁]
    exact ((Heap.keepsKeys_alloc _ _).trans (Heap.keepsKeys_alloc _ _)).trans
      (Heap.keepsKeys_alloc _ _)

/-- The views of a map whose entries are keyed agree with look-ups. -/
theorem Native.views_of_keyed (host : Host) {id : ObjectId} {w : World} {es : List MapEntry}
    (hm : w.heap.map id = .ok es) (he : MapEntries.Keyed w.heap es) : ∃ w',
      Native.Views host id w w' (es.map MapEntry.keyValue).toArray
        (es.map MapEntry.value).toArray := by
  obtain ⟨n, keysId, valuesId, w₁, w₂, w', size, keySet, values, hn, hkeys, hvalues, hm', keeps⟩ :=
    views_made host hm
  have he' : MapEntries.Keyed w'.heap es := he.keeps keeps
  refine ⟨w', ⟨n, keysId, valuesId, w₁, w₂, size, keySet, values, ?_, hkeys, hvalues⟩, ?_,
    fun i k v hk hv => ?_, fun k hk => ?_, ?_⟩
  · simpa using hn
  · simp
  · obtain ⟨e, hi, rfl⟩ : ∃ e, es[i]? = some e ∧ e.keyValue = k := by simpa using hk
    obtain rfl : e.value = v := by simpa [hi] using hv
    obtain ⟨κ, hκ, hfind⟩ := he'.find?_eq (List.mem_of_getElem? hi)
    rw [call_mapGet host hm', hκ]
    simp [MapEntries.get?, hfind]
  · obtain ⟨e, hmem, rfl⟩ : ∃ e ∈ es, e.keyValue = k := by simpa using hk
    obtain ⟨κ, hκ, hfind⟩ := he'.find?_eq hmem
    refine ⟨_, _, by rw [call_mapContainsKey host hm', hκ], ?_⟩
    simp only [Heap.boolean?, Heap.payload?, World.get_make_self, Object.make, hfind,
      Option.isSome_some]
  · obtain ⟨κs, hκs, same⟩ := he'.mapM_mapKey
    exact ⟨κs, by simpa using hκs, he'.sorted.pairwise_of_forall₂ same⟩

/-! ## Views and look-ups -/

/-- What a map with the entries `es` shows: each entry is under the key of its key value; the views
are the key values and the values of the entries, and agree with look-ups; and `put` gives what
`get` gives just before it, which is `null` for a key without an entry, or both fail and change
nothing. -/
structure Native.MapAgrees (host : Host) (id : ObjectId) (w : World) (es : List MapEntry) :
    Prop where
  entries : w.heap.map id = .ok es
  own : ∀ e ∈ es, ∃ κ, w.heap.mapKey e.keyValue = .ok κ ∧ e.key.cmp κ = .eq
  views : ∃ w', Views host id w w' (es.map MapEntry.keyValue).toArray
    (es.map MapEntry.value).toArray
  put : ∀ k v : Value,
    (∃ κ old w', w.heap.mapKey k = .ok κ ∧
      call host ⟨some id, [k, v]⟩ .mapPut w = .ok (some old) w' ∧
      call host ⟨some id, [k]⟩ .mapGet w = .ok (some old) w ∧
      ((∀ e ∈ es, ¬ e.key.cmp κ = .eq) → old = .null)) ∨
    (∃ e, call host ⟨some id, [k, v]⟩ .mapPut w = .error e w ∧
      call host ⟨some id, [k]⟩ .mapGet w = .error e w)

theorem Native.agrees_of_keyed (host : Host) {id : ObjectId} {w : World} {es : List MapEntry}
    (hm : w.heap.map id = .ok es) (he : MapEntries.Keyed w.heap es) :
    MapAgrees host id w es := by
  refine ⟨hm, he.own, views_of_keyed host hm he, fun k v => ?_⟩
  have put := call_mapPut host hm k v
  have get := call_mapGet host hm k
  cases hκ : w.heap.mapKey k with
  | error e =>
    rw [hκ] at put get
    exact .inr ⟨e, put, get⟩
  | ok κ =>
    rw [hκ] at put get
    refine .inl ⟨κ, _, _, rfl, put, get, fun absent => ?_⟩
    have none : MapEntries.find? es κ = none := by simpa [MapEntries.find?] using absent
    simp [MapEntries.get?, none]

/-- **Views of maps agree with look-ups.** Take an object that is a map without entries, and any
steps that it takes from there: puts, removals and assignments to indexes, in any order and with
keys of any kind, and whatever else happens meanwhile to other objects. Or take any map at any
moment of entry methods that run one after the other. Then every entry is under the key that its key
value is. `keySet()` and `values()` have as many items as `size()` tells; the value at each position
is what `get` gives for the key at that position, which `containsKey` finds; the keys increase; and
`put` gives what `get` gave just before it. -/
theorem map_views_agree {decls : List ClassDecl} {query : Option QueryService}
    {credentials : Credentials} {today : Date} {maxDepth : Nat} {env : Env}
    (henv : Env.make (Registration.registerAll .initial decls).table query credentials today
      maxDepth = .ok env) :
    (∀ (calls : Calls) (id : ObjectId) (m₀ m : Machine), m₀.world.heap.map id = .ok [] →
      ReflTransGen (MapStep env calls id) m₀ m →
      ∃ es, Native.MapAgrees env.toHost id m.world es) ∧
    (∀ (sink : Sink) (entries : List (Nat × EntryPoint)),
      ∀ μ ∈ (Machine.start sink).lifetime env entries, ∀ (w : World) (id : ObjectId)
        (es : List MapEntry), w.heap = μ.memory.heap → w.heap.map id = .ok es →
        Native.MapAgrees env.toHost id w es) := by
  refine ⟨fun calls id m₀ m hm steps => ?_, fun sink entries μ hμ w id es hw hm => ?_⟩
  · obtain ⟨es, hes, he⟩ := MapStep.keyed_of_steps steps (.empty hm)
    exact ⟨es, Native.agrees_of_keyed env.toHost hes he⟩
  · have keyed := lifetime_keyed (Env.make_registered henv) sink entries μ hμ
    rw [← hw] at keyed
    exact Native.agrees_of_keyed env.toHost hm (keyed id es (Heap.map_eq_ok.1 hm))

/-- A map takes the key `null` twice, by an index and by `put`; and a run ends with two entries. -/
theorem map_views_agree_pairs : ∃ env,
    Env.make (Registration.registerAll .initial pairsProgram).table none {} ⟨2024, 1, 1⟩ 16
      = .ok env ∧
    (∃ m₀ m es, m₀.world.heap.map 0 = .ok [] ∧
      ReflTransGen (MapStep env (Calls.withFuel env 1) 0) m₀ m ∧
      Native.MapAgrees env.toHost 0 m.world es ∧
      es.map (fun e => (e.keyValue, e.value)) = [(.null, .object 0)]) ∧
    ∃ μ ∈ (Machine.start {}).lifetime env [(20, ⟨"Main", "action"⟩)], ∃ es,
      Native.MapAgrees env.toHost 0 { heap := μ.memory.heap } es ∧
      es.map (fun e => (e.keyValue, e.value)) =
        [(.object 3, .object 4), (.object 1, .object 2)] := by
  obtain ⟨env, henv, μ, hμ, es, hm, hes, -⟩ := pairsProgram_runs
  obtain ⟨after, moments⟩ := map_views_agree henv
  refine ⟨env, henv, ?_, μ, hμ, es, moments {} _ μ hμ _ 0 es rfl hm, hes⟩
  let m₀ : Machine := { world := { heap := ⟨#[.make Builtin.mapClass [] (.map [])]⟩ } }
  have steps : ∃ m, ReflTransGen (MapStep env (Calls.withFuel env 1) 0) m₀ m ∧
      m.world.heap.map 0 = .ok [⟨.null, .null, .object 0⟩] :=
    ⟨_, .tail (.single (.store (k := .null) (v := .null) rfl))
      (.put (k := .null) (v := .object 0) rfl), rfl⟩
  obtain ⟨m, hsteps, hlast⟩ := steps
  obtain ⟨es', agrees⟩ := after (Calls.withFuel env 1) 0 m₀ m rfl hsteps
  have hes' := agrees.entries
  rw [hlast] at hes'
  cases hes'
  exact ⟨m₀, m, _, rfl, hsteps, agrees, rfl⟩

end ClassScript
