import Mathlib.Logic.Function.Basic

/-! The cache of databases in the Node.js driver. It is an object literal, so that its lookups see
the members of `Object.prototype`, and an assignment to `__proto__` replaces its prototype. -/

namespace TypeDBDriver.Nodejs.Cache

structure TypeDBDatabaseImpl (Replicas : Type) where
  name : String
  replicas : Replicas

def objectMembers : List String :=
  ["constructor", "__defineGetter__", "__defineSetter__", "hasOwnProperty", "__lookupGetter__",
    "__lookupSetter__", "isPrototypeOf", "propertyIsEnumerable", "toString", "valueOf", "__proto__",
    "toLocaleString"]

/-- The members of a database that have a getter and no setter. -/
def databaseGetters : List String := ["primaryReplica", "preferredReplica", "name", "replicas"]

def databaseMembers : List String :=
  databaseGetters ++ ["_name", "_driver", "_replicas", "delete", "schema", "typeSchema",
    "ruleSchema", "runFailsafe", "runOnAnyReplica", "runOnPrimaryReplica", "seekPrimaryReplica",
    "waitForPrimaryReplicaSelection"]

inductive Failure where
  | databaseDoesNotExist (name : String)
  | typeError
  /-- What the servers make `runFailsafe` or `fetchReplicas` throw. -/
  | server (message : String)
  deriving DecidableEq, Repr

/-- What a property of the cache holds: a database, or a member of an object that is none. -/
inductive Property (Replicas : Type) where
  | database (database : TypeDBDatabaseImpl Replicas)
  | member (name : String)

/-- `_database_cache`, with the database that has become its prototype. -/
structure DatabaseCache (Replicas : Type) where
  own : String → Option (TypeDBDatabaseImpl Replicas) := fun _ => none
  prototype : Option (TypeDBDatabaseImpl Replicas) := none

namespace DatabaseCache

variable {Replicas : Type}

def Inherits (cache : DatabaseCache Replicas) (name : String) : Prop :=
  name ∈ objectMembers ∨ cache.prototype.isSome = true ∧ name ∈ databaseMembers

instance (cache : DatabaseCache Replicas) (name : String) : Decidable (cache.Inherits name) :=
  inferInstanceAs (Decidable (_ ∨ _))

/-- `name in cache` -/
def Has (cache : DatabaseCache Replicas) (name : String) : Prop :=
  (cache.own name).isSome = true ∨ cache.Inherits name

instance (cache : DatabaseCache Replicas) (name : String) : Decidable (cache.Has name) :=
  inferInstanceAs (Decidable (_ ∨ _))

/-- `cache[name]`, of a name that is in the cache. -/
def read (cache : DatabaseCache Replicas) (name : String) : Property Replicas :=
  match cache.own name with
  | some database => .database database
  | none =>
    match cache.prototype with
    | some database => if name = "__proto__" then .database database else .member name
    | none => .member name

/-- `cache[name] = database` in strict code. -/
def write (cache : DatabaseCache Replicas) (name : String)
    (database : TypeDBDatabaseImpl Replicas) :
    Except Failure (DatabaseCache Replicas) :=
  if name = "__proto__" then .ok { cache with prototype := some database }
  else if (cache.own name).isNone ∧ cache.prototype.isSome ∧ name ∈ databaseGetters then
    .error .typeError
  else .ok { cache with own := Function.update cache.own name (some database) }

def construct (name : String) (replicas : Replicas) (cache : DatabaseCache Replicas) :
    Except Failure (TypeDBDatabaseImpl Replicas) × DatabaseCache Replicas :=
  match cache.write name ⟨name, replicas⟩ with
  | .ok cache => (.ok ⟨name, replicas⟩, cache)
  | .error failure => (.error failure, cache)

end DatabaseCache

/-- What `runFailsafe` meets: the replicas that it fetches if a server is not the primary one, and
what comes of the task in the end. -/
structure Exchange (Replicas α : Type) where
  notPrimary : Option Replicas := none
  answer : Except Failure α

namespace DatabaseManager

variable {Replicas α : Type}

def runFailsafe (name : String) (exchange : Exchange Replicas α) (cache : DatabaseCache Replicas) :
    Except Failure α × DatabaseCache Replicas :=
  match exchange.notPrimary with
  | none => (exchange.answer, cache)
  | some replicas =>
    match cache.construct name replicas with
    | (.ok _, cache) => (exchange.answer, cache)
    | (.error failure, cache) => (.error failure, cache)

def contains (name : String) (exchange : Exchange Replicas Bool) (cache : DatabaseCache Replicas) :
    Except Failure Bool × DatabaseCache Replicas :=
  runFailsafe name exchange cache

def create (name : String) (exchange : Exchange Replicas Unit) (cache : DatabaseCache Replicas) :
    Except Failure Unit × DatabaseCache Replicas :=
  runFailsafe name exchange cache

def fetch (name : String) (fetched : Except Failure Replicas) (cache : DatabaseCache Replicas) :
    Except Failure (Property Replicas) × DatabaseCache Replicas :=
  match fetched with
  | .error failure => (.error failure, cache)
  | .ok replicas =>
    match cache.construct name replicas with
    | (.ok database, cache) => (.ok (.database database), cache)
    | (.error failure, cache) => (.error failure, cache)

def get (name : String) (exchange : Exchange Replicas Bool) (fetched : Except Failure Replicas)
    (cache : DatabaseCache Replicas) :
    Except Failure (Property Replicas) × DatabaseCache Replicas :=
  match contains name exchange cache with
  | (.error failure, cache) => (.error failure, cache)
  | (.ok false, cache) => (.error (.databaseDoesNotExist name), cache)
  | (.ok true, cache) =>
    if cache.Has name then (.ok (cache.read name), cache) else fetch name fetched cache

def ofAll (cache : DatabaseCache Replicas) : List (String × Replicas) → DatabaseCache Replicas
  | [] => cache
  | (name, replicas) :: rest =>
    match cache.construct name replicas with
    | (.ok _, cache) => ofAll cache rest
    | (.error _, cache) => cache

inductive Call (Replicas : Type) where
  | get (name : String) (exchange : Exchange Replicas Bool) (fetched : Except Failure Replicas)
  | all (databases : List (String × Replicas))
  | create (name : String) (exchange : Exchange Replicas Unit)

def perform (cache : DatabaseCache Replicas) : Call Replicas → DatabaseCache Replicas
  | .get name exchange fetched => (get name exchange fetched cache).2
  | .all databases => ofAll cache databases
  | .create name exchange => (create name exchange cache).2

def run (calls : List (Call Replicas)) : DatabaseCache Replicas := calls.foldl perform {}

end DatabaseManager

/-- A lookup of the name does not end at a member of another object. -/
def DatabaseCache.Clear {Replicas : Type} (cache : DatabaseCache Replicas) (name : String) : Prop :=
  (cache.own name).isSome = true ∨ (name = "__proto__" ∧ cache.prototype.isSome = true) ∨
    ¬ cache.Inherits name

structure DatabaseCache.Named {Replicas : Type} (cache : DatabaseCache Replicas) : Prop where
  own : ∀ name database, cache.own name = some database → database.name = name
  prototype : ∀ database, cache.prototype = some database → database.name = "__proto__"

namespace DatabaseManager

variable {Replicas α : Type} {cache : DatabaseCache Replicas} {name : String}

section

variable (named : cache.Named)

include named

theorem construct_named (name : String) (replicas : Replicas) :
    (cache.construct name replicas).2.Named := by
  unfold DatabaseCache.construct DatabaseCache.write
  split
  · next after written =>
      split at written
      · next proto =>
          cases written
          refine ⟨named.own, ?_⟩
          rintro database ⟨⟩
          exact proto
      · split at written
        · cases written
        · cases written
          refine ⟨fun other database found => ?_, named.prototype⟩
          dsimp only at found
          by_cases same : other = name
          · subst same
            rw [Function.update_self] at found
            cases found
            rfl
          · rw [Function.update_of_ne same] at found
            exact named.own other database found
  · exact named

theorem runFailsafe_named (name : String) (exchange : Exchange Replicas α) :
    (runFailsafe name exchange cache).2.Named := by
  unfold runFailsafe
  split
  · exact named
  · next replicas _ =>
      have kept := construct_named named name replicas
      split <;> next constructed => rwa [constructed] at kept

theorem fetch_named (name : String) (fetched : Except Failure Replicas) :
    (fetch name fetched cache).2.Named := by
  unfold fetch
  split
  · exact named
  · next replicas =>
      have kept := construct_named named name replicas
      split <;> next constructed => rwa [constructed] at kept

theorem get_named (name : String) (exchange : Exchange Replicas Bool)
    (fetched : Except Failure Replicas) : (get name exchange fetched cache).2.Named := by
  have kept : (contains name exchange cache).2.Named := runFailsafe_named named name exchange
  unfold get
  split
  · next answered => rwa [answered] at kept
  · next answered => rwa [answered] at kept
  · next answered =>
      rw [answered] at kept
      split
      · exact kept
      · exact fetch_named kept name fetched

theorem ofAll_named (databases : List (String × Replicas)) : (ofAll cache databases).Named := by
  induction databases generalizing cache with
  | nil => exact named
  | cons database rest ih =>
    obtain ⟨name, replicas⟩ := database
    have kept := construct_named named name replicas
    unfold ofAll
    split
    · next constructed =>
        rw [constructed] at kept
        exact ih kept
    · next constructed => rwa [constructed] at kept

theorem perform_named (call : Call Replicas) : (perform cache call).Named := by
  cases call with
  | get name exchange fetched => exact get_named named name exchange fetched
  | all databases => exact ofAll_named named databases
  | create name exchange => exact runFailsafe_named named name exchange

end

theorem run_named (calls : List (Call Replicas)) : (run calls).Named := by
  have kept : ∀ cache : DatabaseCache Replicas, cache.Named →
      (calls.foldl perform cache).Named := by
    induction calls with
    | nil => exact fun _ named => named
    | cons call calls ih => exact fun cache named => ih _ (perform_named named call)
  refine kept {} ⟨?_, ?_⟩
  · rintro _ _ ⟨⟩
  · rintro _ ⟨⟩

theorem fetch_of_not_has (replicas : Replicas) (absent : ¬ cache.Has name) :
    (fetch name (.ok replicas) cache).1 = .ok (.database ⟨name, replicas⟩) := by
  have ordinary : name ≠ "__proto__" := by
    rintro rfl
    exact absent (.inr (.inl (by decide)))
  have writable : ¬ ((cache.own name).isNone = true ∧ cache.prototype.isSome = true ∧
      name ∈ databaseGetters) := by
    rintro ⟨-, replaced, getter⟩
    exact absent (.inr (.inr ⟨replaced, List.mem_append_left _ getter⟩))
  simp only [fetch, DatabaseCache.construct, DatabaseCache.write, if_neg ordinary, if_neg writable]

theorem read_database_iff (named : cache.Named) (has : cache.Has name) :
    (∃ database, cache.read name = .database database ∧ database.name = name) ↔
      cache.Clear name := by
  unfold DatabaseCache.read DatabaseCache.Clear
  rcases found : cache.own name with _ | database
  · have inherits : cache.Inherits name := by
      rcases has with own | inherits
      · rw [found] at own
        cases own
      · exact inherits
    rcases replaced : cache.prototype with _ | database
    · simp [inherits]
    · by_cases proto : name = "__proto__"
      · have same := named.prototype database replaced
        simp [proto, same]
      · simp [proto, inherits]
  · have same := named.own name database found
    simp [same]

/-- A database that exists is found under its name exactly if no other object answers for the
name. -/
theorem get_resolves_iff (calls : List (Call Replicas)) (name : String)
    (exchange : Exchange Replicas Bool) (replicas : Replicas)
    (present : (contains name exchange (run calls)).1 = .ok true) :
    (∃ database, (get name exchange (.ok replicas) (run calls)).1 = .ok (.database database) ∧
      database.name = name) ↔ (contains name exchange (run calls)).2.Clear name := by
  have named : (contains name exchange (run calls)).2.Named :=
    runFailsafe_named (run_named calls) name exchange
  unfold get
  generalize contains name exchange (run calls) = answered at present named
  obtain ⟨answer, cache⟩ := answered
  cases present
  by_cases has : cache.Has name
  · simp only [if_pos has, Except.ok.injEq]
    exact read_database_iff named has
  · simp only [if_neg has, fetch_of_not_has replicas has]
    refine iff_of_true ⟨_, rfl, rfl⟩ ?_
    exact .inr (.inr fun inherits => has (.inr inherits))

theorem get_resolves_iff_orders :
    ∃ database, (get "orders" ⟨none, .ok true⟩ (.ok ()) (run [.all [("people", ())]])).1 =
      .ok (.database database) ∧ database.name = "orders" :=
  (get_resolves_iff [.all [("people", ())]] "orders" ⟨none, .ok true⟩ () rfl).mpr
    (.inr (.inr (by decide)))

/-- A database with the name of a method of every object. -/
theorem get_returns_method :
    (get "toString" ⟨none, .ok true⟩ (.ok ()) (run [.create "toString" ⟨none, .ok ()⟩])).1 =
      .ok (.member "toString") := by
  rfl

end DatabaseManager

end TypeDBDriver.Nodejs.Cache
