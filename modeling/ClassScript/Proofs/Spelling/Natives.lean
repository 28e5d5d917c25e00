import ClassScript.Proofs.Spelling.Objects

/-!
# Built-in methods in other spellings

`Native.Tied τ Q x y`: from tied heaps and equal outputs, both computations end in such, with
results in `Q` or with the same error. Built-in methods are tied (`Native.call_tied`): they read of
an object its native state, its class name and its generic arguments, and they make objects of
built-in classes, which have no fields, and records.

Records need what is said of the query service in `QueryService.Regular`. A record has a field for
each column of its row, so a row that lacks a declared field makes a record that lacks it. What a
service answers depends on the credentials and the text; the log of the run is not among what it is
given.
-/

namespace ClassScript

/-! ## The query service -/

/-- The row has a column for every field that records declare, except the id. -/
def QueryRow.isComplete (row : QueryRow) : Bool :=
  Builtin.recordClass.instanceFields.names.all fun name =>
    sameName Builtin.recordIdField name || row.fields.any fun column => sameName column.1 name

/-- What a service answers, without what it logs. -/
def QueryService.answer (s : QueryService) (credentials : Credentials) (query : String) (log : Log) :
    Except NativeError (List QueryRow) :=
  match s.execute credentials query log with
  | .ok rows _ => .ok rows
  | .error e _ => .error e

/-- A service that answers from what it is asked, with complete rows (module doc). -/
structure QueryService.Regular (s : QueryService) : Prop where
  answer : ∀ credentials query log log',
    s.answer credentials query log = s.answer credentials query log'
  complete : ∀ credentials query log rows, s.answer credentials query log = .ok rows →
    ∀ row ∈ rows, row.isComplete = true

/-! ## Hosts -/

/-- Classes of two runs whose instances have no fields. -/
structure ClassInfo.BareTwin (τ : Tie) (c d : ClassInfo) : Prop where
  twin : c.Twin τ.spelling d
  bare : c.Bare τ.classes

/-- What two runs are given. -/
structure Host.Tied (τ : Tie) (host host' : Host) : Prop where
  first : τ.classes = host.classes
  classes : host.classes.Twins τ.spelling host'.classes
  integer : host.prims.integer.BareTwin τ host'.prims.integer
  double : host.prims.double.BareTwin τ host'.prims.double
  string : host.prims.string.BareTwin τ host'.prims.string
  boolean : host.prims.boolean.BareTwin τ host'.prims.boolean
  list : host.prims.list.BareTwin τ host'.prims.list
  date : ∀ c, host.classes.resolve? "Date" = some c → c.Bare τ.classes
  record : ∀ c, host.classes.get? Builtin.recordName = some c → c = Builtin.recordClass
  query : host.query = host'.query
  service : ∀ s, host.query = some s → s.Regular
  credentials : host.credentials = host'.credentials
  today : host.today = host'.today

/-! ## Computations -/

/-- What two runs have changed. -/
structure World.Tied (τ : Tie) (w w' : World) : Prop where
  heap : w.heap.Tied τ w'.heap
  sink : w.sink = w'.sink

namespace Native

variable {α β γ δ : Type} {τ : Tie} {Q : α → β → Prop} {R : γ → δ → Prop}

/-- Both computations do the same (module doc). -/
def Tied (τ : Tie) (Q : α → β → Prop) (x : Native α) (y : Native β) : Prop :=
  ∀ w w' : World, w.Tied τ w' → match x w, y w' with
    | .ok a v, .ok b v' => Q a b ∧ v.Tied τ v'
    | .error e v, .error e' v' => e = e' ∧ v.Tied τ v'
    | _, _ => False

namespace Tied

theorem pure {a : α} {b : β} (h : Q a b) :
    Tied τ Q (Pure.pure a : Native α) (Pure.pure b : Native β) :=
  fun _ _ hw => ⟨h, hw⟩

theorem throw (e : NativeError) :
    Tied τ Q (MonadExcept.throw e : Native α) (MonadExcept.throw e : Native β) :=
  fun _ _ hw => ⟨rfl, hw⟩

theorem bind {x : Native α} {y : Native β} (h : Tied τ Q x y) {f : α → Native γ} {g : β → Native δ}
    (hfg : ∀ a b, Q a b → Tied τ R (f a) (g b)) : Tied τ R (x >>= f) (y >>= g) := by
  intro w w' hw
  have hr := h w w' hw
  simp only [Bind.bind, EStateM.bind]
  generalize x w = r, y w' = r' at hr
  cases r <;> cases r'
  · exact hfg _ _ hr.1 _ _ hr.2
  · exact hr.elim
  · exact hr.elim
  · exact hr

/-- After equal results. -/
theorem next {x y : Native α} (h : Tied τ Eq x y) {f : α → Native γ} {g : α → Native δ}
    (hfg : ∀ a, Tied τ R (f a) (g a)) : Tied τ R (x >>= f) (y >>= g) :=
  h.bind fun _ _ hab => hab ▸ hfg _

theorem heap : Tied τ (Heap.Tied τ) Native.heap Native.heap := fun _ _ hw => ⟨hw.heap, hw⟩

theorem ofExcept (x : Except NativeError α) :
    Tied τ Eq (MonadExcept.ofExcept x : Native α) (MonadExcept.ofExcept x) := by
  cases x with
  | ok a => exact .pure rfl
  | error e => exact .throw e

theorem modifyHeap {f g : Heap → Heap} (hfg : ∀ h h', h.Tied τ h' → (f h).Tied τ (g h')) :
    Tied τ (fun _ _ => True) (Native.modifyHeap f) (Native.modifyHeap g) :=
  fun _ _ hw => ⟨trivial, hfg _ _ hw.heap, hw.sink⟩

theorem setPayload (id : ObjectId) (payload : Payload) :
    Tied τ (fun _ _ => True) (Native.setPayload id payload) (Native.setPayload id payload) :=
  .modifyHeap fun _ _ hh => hh.setPayload id payload

theorem modifyItems (id : ObjectId) (f : Array Value → Array Value) :
    Tied τ (fun _ _ => True) (Native.modifyHeap (·.modifyItems id f))
      (Native.modifyHeap (·.modifyItems id f)) :=
  .modifyHeap fun _ _ hh => hh.modifyItems id f

theorem alloc {o o' : Object} (ho : o.Twin τ.spelling o') (hc : o.Complete τ.classes) :
    Tied τ Eq (Native.alloc o) (Native.alloc o') :=
  fun _ _ hw =>
    have halloc := hw.heap.alloc ho hc
    ⟨congrArg Value.object halloc.1, halloc.2, hw.sink⟩

theorem log (event event' : LogEvent) :
    Tied τ (fun _ _ => True) (Native.log event) (Native.log event') :=
  fun _ _ hw => ⟨trivial, hw.heap, hw.sink⟩

theorem writeLine (text : String) :
    Tied τ (fun _ _ => True) (Native.writeLine text) (Native.writeLine text) := by
  rintro ⟨heap, sink, log⟩ ⟨heap', sink', log'⟩ ⟨hh, rfl⟩
  unfold Native.writeLine
  dsimp only
  cases sink.write (text ++ "\n") with
  | mk message sink =>
    cases message with
    | none => exact ⟨trivial, hh, rfl⟩
    | some message => exact ⟨rfl, hh, rfl⟩

/-- Both services give the same answer, whatever was logged. -/
theorem ask {service : QueryService} (hs : service.Regular) (credentials : Credentials)
    (query : String) :
    Tied τ (fun rows rows' => rows = rows' ∧ ∀ row ∈ rows, row.isComplete = true)
      (Native.ask service credentials query) (Native.ask service credentials query) := by
  rintro ⟨heap, sink, log⟩ ⟨heap', sink', log'⟩ ⟨hh, rfl⟩
  have same := hs.answer credentials query log log'
  have complete := hs.complete credentials query log
  unfold QueryService.answer at same complete
  unfold Native.ask
  dsimp only
  generalize service.execute credentials query log = r,
    service.execute credentials query log' = r' at same complete
  cases r <;> cases r' <;> cases same
  · exact ⟨⟨rfl, complete _ rfl⟩, hh, rfl⟩
  · exact ⟨rfl, hh, rfl⟩

theorem mapM {f : α → Native γ} {g : α → Native γ} {as : List α}
    (hfg : ∀ a ∈ as, Tied τ Eq (f a) (g a)) : Tied τ Eq (as.mapM f) (as.mapM g) := by
  induction as with
  | nil => exact .pure rfl
  | cons a as ih =>
    rw [List.forall_mem_cons] at hfg
    rw [List.mapM_cons, List.mapM_cons]
    exact hfg.1.next fun _ => (ih hfg.2).next fun _ => .pure rfl

end Tied

/-! ## Receiver and arguments -/

section

variable (c : NativeCall)

theorem receiverId_tied : Tied τ Eq c.receiverId c.receiverId := by
  unfold NativeCall.receiverId
  split
  · exact .pure rfl
  · exact .throw _

theorem arg_tied (i : Nat) : Tied τ Eq (c.arg i) (c.arg i) := by
  unfold NativeCall.arg
  split
  · exact .pure rfl
  · exact .throw _

theorem integerArg_tied (i : Nat) : Tied τ Eq (c.integerArg i) (c.integerArg i) := by
  refine (arg_tied c i).next fun v => Tied.heap.bind fun h h' hh => ?_
  rw [hh.integer?]
  split
  · exact .pure rfl
  · exact .throw _

theorem stringArg_tied (i : Nat) : Tied τ Eq (c.stringArg i) (c.stringArg i) := by
  refine (arg_tied c i).next fun v => Tied.heap.bind fun h h' hh => ?_
  rw [hh.string?]
  split
  · exact .pure rfl
  · exact .throw _

theorem mapKey_tied (v : Value) :
    Tied τ Eq (Native.ofHeap (·.mapKey v)) (Native.ofHeap (·.mapKey v)) := by
  refine Tied.heap.bind fun h h' hh => ?_
  dsimp only
  rw [hh.mapKey]
  exact .ofExcept _

theorem keyArg_tied (i : Nat) : Tied τ Eq (c.keyArg i) (c.keyArg i) :=
  (arg_tied c i).next fun v => mapKey_tied v

theorem receiverState_tied (expected : String) (part? : Payload → Option α) :
    Tied τ Eq (c.receiverState expected part?) (c.receiverState expected part?) := by
  refine (receiverId_tied c).next fun id => Tied.heap.bind fun h h' hh => ?_
  dsimp only
  rw [(hh.object id).payload, hh.mismatch]
  split
  · exact .pure rfl
  · exact .throw _

theorem receiverString_tied : Tied τ Eq c.receiverString c.receiverString :=
  (receiverState_tied c _ _).next fun _ => .pure rfl

theorem receiverDate_tied : Tied τ Eq c.receiverDate c.receiverDate :=
  (receiverState_tied c _ _).next fun _ => .pure rfl

theorem receiverTypeArg_tied (i : Nat) :
    Tied τ (DataType.Spelled τ.spelling) (c.receiverTypeArg i) (c.receiverTypeArg i) := by
  unfold NativeCall.receiverTypeArg
  split
  · rename_i id _
    refine Tied.heap.bind fun h h' hh => .pure ?_
    have ha := getElem?_paired (hh.object id).typeArgs i
    rw [List.getD_eq_getElem?_getD, List.getD_eq_getElem?_getD]
    generalize (h.get id).typeArgs[i]? = a, (h'.get id).typeArgs[i]? = b at ha
    cases ha with
    | none => exact .refl _
    | some h => exact h
  · exact .pure (.refl _)

end

/-! ## New objects -/

variable {host host' : Host} (hh : host.Tied τ host')
include hh

omit hh in
theorem newBare {c d : ClassInfo} (h : c.BareTwin τ d) {as bs : List DataType}
    (hs : List.Forall₂ (DataType.Spelled τ.spelling) as bs) (payload : Payload) :
    Tied τ Eq (alloc (.make c as payload)) (alloc (.make d bs payload)) :=
  .alloc (Object.twin_make h.twin hs payload) (Object.complete_make h.bare as payload)

theorem integer_tied (n : Int64) : Tied τ Eq (integer host n) (integer host' n) :=
  newBare hh.integer .nil _

theorem double_tied (x : Double) : Tied τ Eq (double host x) (double host' x) :=
  newBare hh.double .nil _

theorem boolean_tied (b : Bool) : Tied τ Eq (boolean host b) (boolean host' b) :=
  newBare hh.boolean .nil _

theorem string_tied (s : String) : Tied τ Eq (string host s) (string host' s) :=
  newBare hh.string .nil _

theorem list_tied {element element' : DataType} (he : element.Spelled τ.spelling element')
    (items : Array Value) : Tied τ Eq (list host element items) (list host' element' items) :=
  newBare hh.list (.cons he .nil) _

theorem optionalString_tied (s : Option String) :
    Tied τ Eq (optionalString host s) (optionalString host' s) := by
  cases s with
  | some s => exact string_tied hh s
  | none => exact .pure rfl

theorem count_tied (n : Nat) : Tied τ Eq (count host n) (count host' n) :=
  (integer_tied hh _).next fun _ => .pure rfl

theorem newDate_tied (d : Date) : Tied τ Eq (newDate host d) (newDate host' d) := by
  refine Tied.next ?_ fun _ => .pure rfl
  unfold newObject
  have hc := hh.classes.resolve? (sameName_self "Date")
  have bare := hh.date
  generalize host.classes.resolve? "Date" = x, host'.classes.resolve? "Date" = y at hc bare
  cases hc with
  | none => exact .throw _
  | some hc => exact newBare ⟨hc, bare _ rfl⟩ .nil _

/-! ## Queries -/

/-- A record is complete once the columns are set that it still lacks. -/
theorem recordFields_tied : ∀ (columns : List (String × String)) {o o' : Object},
    o.Twin τ.spelling o' → o.cls = Builtin.recordClass →
    (∀ name ∈ Builtin.recordClass.instanceFields.names,
      (o.fields.contains name || columns.any fun column => sameName column.1 name) = true) →
    Tied τ Eq
      (columns.foldlM (fun o (name, value) => return o.setField name (← string host value)) o
        >>= alloc)
      (columns.foldlM (fun o (name, value) => return o.setField name (← string host' value)) o'
        >>= alloc)
  | [], o, o', ho, hc, hn => by
    refine Tied.alloc ho fun name hd => ?_
    rw [hc, ClassInfo.instanceField?_own rfl] at hd
    obtain ⟨f, hf⟩ := Option.isSome_iff_exists.1 hd
    obtain ⟨key, same, hmem⟩ := NameTable.sameName_of_get? hf
    have hk := hn key (List.mem_map_of_mem hmem)
    rwa [List.any_nil, Bool.or_false, NameTable.contains_eq, NameTable.get?_congr _ same,
      ← NameTable.contains_eq] at hk
  | (column, value) :: columns, o, o', ho, hc, hn => by
    have step : ∀ v : Value, Tied τ Eq
        (columns.foldlM (fun o (name, value) => return o.setField name (← string host value))
          (o.setField column v) >>= alloc)
        (columns.foldlM (fun o (name, value) => return o.setField name (← string host' value))
          (o'.setField column v) >>= alloc) := by
      intro v
      refine recordFields_tied columns (ho.setSameField column v) hc fun name hm => ?_
      rw [show (o.setField column v).fields.contains name
        = (sameName column name || o.fields.contains name) from NameTable.contains_insert _ _ _ _,
        Bool.or_comm (sameName column name), Bool.or_assoc]
      exact hn name hm
    rw [List.foldlM_cons, List.foldlM_cons, bind_assoc, bind_assoc]
    exact (string_tied hh value).next fun v => by simpa using step v

theorem recordOf_tied {c d : ClassInfo} (hc : c.Twin τ.spelling d) (hr : c = Builtin.recordClass)
    {row : QueryRow} (hrow : row.isComplete = true) :
    Tied τ Eq (recordOf host c row) (recordOf host' d row) := by
  refine (string_tied hh row.id).next fun id => ?_
  refine recordFields_tied hh row.fields
    ((Object.twin_make hc .nil .none).setSameField Builtin.recordIdField id) hr fun name hm => ?_
  have hcolumn := List.all_eq_true.1 hrow name hm
  rw [Bool.or_eq_true] at hcolumn ⊢
  refine hcolumn.imp_left fun hid => ?_
  show (NameTable.empty.insert Builtin.recordIdField id).contains name = true
  rw [NameTable.contains_insert, hid, Bool.true_or]

theorem materialize_tied {rows : List QueryRow} (hrows : ∀ row ∈ rows, row.isComplete = true) :
    Tied τ Eq (materialize host rows) (materialize host' rows) := by
  unfold materialize
  have hc := hh.classes.get? (sameName_self Builtin.recordName)
  have hr := hh.record
  generalize host.classes.get? Builtin.recordName = x,
    host'.classes.get? Builtin.recordName = y at hc hr
  cases hc with
  | none => exact .throw _
  | some hc =>
    exact (Tied.mapM fun row hm => recordOf_tied hh hc (hr _ rfl) (hrows row hm)).next fun _ =>
      list_tied hh (.refl _) _

theorem runQuery_tied (query : String) :
    Tied τ Eq (runQuery host query) (runQuery host' query) := by
  unfold runQuery
  rw [← hh.query, ← hh.credentials]
  have hs := hh.service
  generalize host.query = service at hs
  cases service with
  | none => exact .throw _
  | some service =>
    refine (Tied.ask (hs _ rfl) _ _).bind fun rows rows' hr => ?_
    obtain ⟨rfl, complete⟩ := hr
    exact (Tied.log _ _).bind fun _ _ _ => materialize_tied hh complete

/-! ## Methods -/

variable (c : NativeCall)

theorem scalarMethod_tied (m : NativeMethod) :
    Tied τ Eq (scalarMethod host c m) (scalarMethod host' c m) := by
  unfold scalarMethod
  split
  · refine (receiverId_tied c).next fun _ => Tied.heap.bind fun h h' hheap => ?_
    rw [hheap.display]
    exact (string_tied hh _).next fun _ => .pure rfl
  · refine (stringArg_tied c 0).next fun s => ?_
    split
    · exact (integer_tied hh _).next fun _ => .pure rfl
    · exact .throw _
  · exact (receiverState_tied c _ _).next fun _ => (integer_tied hh _).next fun _ => .pure rfl
  · exact (receiverString_tied c).next fun _ => count_tied hh _
  · exact (receiverString_tied c).next fun _ => (string_tied hh _).next fun _ => .pure rfl
  · exact (receiverString_tied c).next fun _ => (string_tied hh _).next fun _ => .pure rfl
  · exact (receiverString_tied c).next fun _ => (stringArg_tied c 0).next fun _ =>
      (boolean_tied hh _).next fun _ => .pure rfl
  · refine (arg_tied c 0).next fun v => Tied.heap.bind fun h h' hheap => ?_
    rw [hheap.display]
    exact (string_tied hh _).next fun _ => .pure rfl
  · exact .pure rfl

theorem listMethod_tied (m : NativeMethod) :
    Tied τ Eq (listMethod host c m) (listMethod host' c m) := by
  have items : Tied τ Eq c.receiverList c.receiverList := receiverState_tied c _ _
  unfold listMethod
  split
  · exact (receiverId_tied c).next fun _ => (Tied.setPayload _ _).bind fun _ _ _ => .pure rfl
  · exact (arg_tied c 0).next fun _ => items.next fun _ => (Tied.modifyItems _ _).bind
      fun _ _ _ => .pure rfl
  · exact (integerArg_tied c 0).next fun _ => items.next fun _ => (Tied.ofExcept _).next fun _ =>
      .pure rfl
  · exact (integerArg_tied c 0).next fun _ => (arg_tied c 1).next fun _ => items.next fun _ =>
      (Tied.ofExcept _).next fun _ => (Tied.modifyItems _ _).bind fun _ _ _ => .pure rfl
  · exact items.next fun _ => count_tied hh _
  · exact items.next fun _ => (boolean_tied hh _).next fun _ => .pure rfl
  · exact items.next fun _ => (Tied.setPayload _ _).bind fun _ _ _ => .pure rfl
  · refine (arg_tied c 0).next fun needle => items.next fun (_, items) =>
      Tied.heap.bind fun h h' hheap => ?_
    rw [show (fun item => h.equals item needle) = fun item => h'.equals item needle from
      funext fun item => hheap.equals item needle]
    exact (boolean_tied hh _).next fun _ => .pure rfl
  · exact .pure rfl

theorem mapMethod_tied (m : NativeMethod) :
    Tied τ Eq (mapMethod host c m) (mapMethod host' c m) := by
  have entries : Tied τ Eq c.receiverMap c.receiverMap := receiverState_tied c _ _
  unfold mapMethod
  split
  · exact (receiverId_tied c).next fun _ => (Tied.setPayload _ _).bind fun _ _ _ => .pure rfl
  · exact (arg_tied c 0).next fun _ => (arg_tied c 1).next fun _ => (mapKey_tied _).next fun _ =>
      entries.next fun _ => (Tied.setPayload _ _).bind fun _ _ _ => .pure rfl
  · exact (keyArg_tied c 0).next fun _ => entries.next fun _ => .pure rfl
  · exact (keyArg_tied c 0).next fun _ => entries.next fun _ => (boolean_tied hh _).next fun _ =>
      .pure rfl
  · exact (keyArg_tied c 0).next fun _ => entries.next fun _ => (Tied.setPayload _ _).bind
      fun _ _ _ => .pure rfl
  · exact entries.next fun _ => count_tied hh _
  · exact entries.next fun _ => (boolean_tied hh _).next fun _ => .pure rfl
  · exact entries.next fun _ => (receiverTypeArg_tied c 0).bind fun _ _ he =>
      (list_tied hh he _).next fun _ => .pure rfl
  · exact entries.next fun _ => (receiverTypeArg_tied c 1).bind fun _ _ he =>
      (list_tied hh he _).next fun _ => .pure rfl
  · exact .pure rfl

theorem dateMethod_tied (m : NativeMethod) :
    Tied τ Eq (dateMethod host c m) (dateMethod host' c m) := by
  unfold dateMethod
  rw [← hh.today]
  split
  · exact newDate_tied hh _
  · exact (integerArg_tied c 0).next fun _ => (integerArg_tied c 1).next fun _ =>
      (integerArg_tied c 2).next fun _ => (Tied.ofExcept _).next fun _ => newDate_tied hh _
  · exact (receiverDate_tied c).next fun _ => (string_tied hh _).next fun _ => .pure rfl
  · exact (receiverDate_tied c).next fun _ => (integer_tied hh _).next fun _ => .pure rfl
  · exact (receiverDate_tied c).next fun _ => count_tied hh _
  · exact (receiverDate_tied c).next fun _ => count_tied hh _
  · exact .pure rfl

theorem requestMethod_tied (m : NativeMethod) :
    Tied τ Eq (requestMethod host c m) (requestMethod host' c m) := by
  have request : Tied τ Eq c.receiverRequest c.receiverRequest := receiverState_tied c _ _
  unfold requestMethod
  split
  · exact (receiverId_tied c).next fun _ => (Tied.setPayload _ _).bind fun _ _ _ => .pure rfl
  · exact (stringArg_tied c 0).next fun _ => (stringArg_tied c 1).next fun _ => request.next
      fun _ => (Tied.setPayload _ _).bind fun _ _ _ => .pure rfl
  · exact (stringArg_tied c 0).next fun _ => request.next fun _ => (optionalString_tied hh _).next
      fun _ => .pure rfl
  · exact (stringArg_tied c 0).next fun _ => request.next fun _ => (Tied.setPayload _ _).bind
      fun _ _ _ => .pure rfl
  · exact request.next fun _ => (optionalString_tied hh _).next fun _ => .pure rfl
  · exact (stringArg_tied c 0).next fun _ => request.next fun _ => (Tied.setPayload _ _).bind
      fun _ _ _ => .pure rfl
  · exact request.next fun _ => (optionalString_tied hh _).next fun _ => .pure rfl
  · exact .pure rfl

/-- Built-in methods do the same in both runs. -/
theorem call_tied (m : NativeMethod) : Tied τ Eq (call host c m) (call host' c m) := by
  cases m with
  | systemDebug =>
    refine (arg_tied c 0).next fun v => Tied.heap.bind fun h h' hheap => ?_
    rw [hheap.display]
    exact (Tied.writeLine _).bind fun _ _ _ => .pure rfl
  | databaseQuery =>
    exact (stringArg_tied c 0).next fun _ => (runQuery_tied hh _).next fun _ => .pure rfl
  | formatScalar | integerValueOf | doubleIntValue | stringLength | stringToUpperCase
  | stringToLowerCase | stringContains | stringValueOf =>
    unfold call
    exact scalarMethod_tied hh c _
  | listCreate | listAdd | listGet | listSet | listSize | listIsEmpty | listClear
  | listContains =>
    unfold call
    exact listMethod_tied hh c _
  | mapCreate | mapPut | mapGet | mapContainsKey | mapRemove | mapSize | mapIsEmpty | mapKeySet
  | mapValues =>
    unfold call
    exact mapMethod_tied hh c _
  | dateToday | dateNewInstance | dateFormat | dateYear | dateMonth | dateDay =>
    unfold call
    exact dateMethod_tied hh c _
  | requestCreate | requestSetHeader | requestGetHeader | requestSetMethod | requestGetMethod
  | requestSetEndpoint | requestGetEndpoint =>
    unfold call
    exact requestMethod_tied hh c _

end Native

end ClassScript
