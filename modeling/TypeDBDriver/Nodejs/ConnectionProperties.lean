import TypeDBDriver.Nodejs.Connection

/-! Which address translations the Node.js driver follows. The keys of a translation are the
addresses to connect to; the driver connects to its values, and files each server under its key. -/

namespace TypeDBDriver.Nodejs.Connection

open Library
open Interaction (run_call_eq_pure run_pure_eq_pure)

abbrev Event := Interaction.Event Call Reply

def advertised : List Event → List String
  | [] => []
  | ⟨.serversAll _, .ok members⟩ :: _ => members
  | _ :: rest => advertised rest

def connectsTo : Call → List String
  | .stubOpen address => [address]
  | .serversAll address => [address]
  | .anyOpen _ => []

def contacted (events : List Event) : List String :=
  events.flatMap fun event => connectsTo event.request

/-- Every replica at an advertised address is served by a stub that connects to the address
translated to it, and the list of servers was only asked of addresses to connect to. -/
structure Translated (translation : Record String) (events : List Event)
    (driver : TypeDBDriverImpl) : Prop where
  resolves (replica : Replica) : replica.server ∈ advertised events →
    ∃ publicAddress server, translation.lookup publicAddress = some replica.server ∧
      driver.serverDriverOf replica = some server ∧ server.stub.address = publicAddress
  fetched : ∀ address ∈ contacted events, address ∈ translation

def OneToOne (translation : Record String) : Prop :=
  ∀ first second privateAddress, translation.lookup first = some privateAddress →
    translation.lookup second = some privateAddress → first = second

theorem contacted_append (before after : List Event) :
    contacted (before ++ after) = contacted before ++ contacted after :=
  List.flatMap_append

theorem mem_contacted_cons {event : Event} {rest : List Event} {address : String} :
    address ∈ contacted (event :: rest) ↔
      address ∈ connectsTo event.request ∨ address ∈ contacted rest :=
  List.mem_append

variable {events : List Event}

theorem fetchFrom_run {addresses members : List String} {driver final : TypeDBDriverImpl}
    (ran : (Interaction.system Call Reply _).run (fetchCloudServerAddressesFrom addresses driver)
      events = some (.pure (.ok members, final))) :
    final = driver ∧ (∀ after, advertised (events ++ after) = members) ∧
      ∀ address ∈ contacted events, address ∈ addresses := by
  induction addresses generalizing events with
  | nil =>
    obtain ⟨-, impossible⟩ := run_pure_eq_pure ran
    cases impossible
  | cons address rest ih =>
    obtain ⟨opened, asked, rfl, afterOpen⟩ := run_call_eq_pure ran
    cases opened with
    | error error =>
      obtain ⟨kept, named, within⟩ := ih afterOpen
      refine ⟨kept, named, ?_⟩
      intro other listed
      rcases mem_contacted_cons.mp listed with here | later
      · exact List.mem_cons.mpr (.inl (List.mem_singleton.mp here))
      · exact List.mem_cons_of_mem address (within other later)
    | ok _ =>
      obtain ⟨servers, events, rfl, afterList⟩ := run_call_eq_pure afterOpen
      have within : ∀ other, other ∈ contacted (⟨.stubOpen address, .ok ()⟩ ::
          ⟨.serversAll address, servers⟩ :: events) →
          other = address ∨ other ∈ contacted events := by
        intro other listed
        rcases mem_contacted_cons.mp listed with here | listed
        · exact .inl (List.mem_singleton.mp here)
        rcases mem_contacted_cons.mp listed with here | later
        · exact .inl (List.mem_singleton.mp here)
        · exact .inr later
      cases servers with
      | error error =>
        obtain ⟨kept, named, inRest⟩ := ih afterList
        refine ⟨kept, named, ?_⟩
        intro other listed
        rcases within other listed with rfl | later
        · exact List.mem_cons_self
        · exact List.mem_cons_of_mem address (inRest other later)
      | ok servers =>
        obtain ⟨rfl, same⟩ := run_pure_eq_pure afterList
        cases same
        refine ⟨rfl, fun after => rfl, ?_⟩
        intro other listed
        rcases within other listed with rfl | none
        · exact List.mem_cons_self
        · cases none

theorem lookup_setServerDrivers (drivers : Record ServerDriver)
    {entries : List (Sigma fun _ : String => String)} (nodup : entries.NodupKeys) (key : String) :
    (setServerDrivers drivers entries).lookup key =
      (((entries.dlookup key).map fun address => .new address { address }).or
        (drivers.lookup key)) := by
  induction entries generalizing drivers with
  | nil => rfl
  | cons entry rest ih =>
    obtain ⟨name, address⟩ := entry
    rw [List.nodupKeys_cons] at nodup
    change (setServerDrivers (drivers.insert name (.new address { address })) rest).lookup key = _
    rw [ih _ nodup.2]
    by_cases same : key = name
    · subst same
      have absent : rest.dlookup key = none := List.dlookup_eq_none.mpr nodup.1
      rw [absent, List.dlookup_cons_eq, AList.lookup_insert]
      rfl
    · rw [List.dlookup_cons_ne rest ⟨name, address⟩ same, AList.lookup_insert_ne same]

variable {translation : Record String}

theorem mem_values_iff {privateAddress : String} :
    privateAddress ∈ translation.values ↔
      ∃ publicAddress, translation.lookup publicAddress = some privateAddress := by
  constructor
  · intro listed
    obtain ⟨⟨key, value⟩, entry, rfl⟩ := List.mem_map.mp listed
    exact ⟨key, AList.mem_lookup_iff.mpr entry⟩
  · intro given
    obtain ⟨key, found⟩ := given
    exact List.mem_map.mpr ⟨⟨key, privateAddress⟩, AList.mem_lookup_iff.mp found, rfl⟩

theorem mem_values_iff_advertised {result : Record String} {servers : List String}
    (accepted : addressTranslation servers (.record translation) = .ok result) :
    result = translation ∧ ∀ address, address ∈ translation.values ↔ address ∈ servers := by
  simp only [addressTranslation] at accepted
  split at accepted
  · cases accepted
  · rename_i matching
    cases accepted
    rw [not_or, not_not, not_not, List.filter_eq_nil_iff, List.filter_eq_nil_iff] at matching
    obtain ⟨known, mapped⟩ := matching
    refine ⟨rfl, fun address => ⟨?_, ?_⟩⟩
    · intro listed
      simpa using known address listed
    · intro listed
      have found := mapped address listed
      unfold isUnmapped at found
      cases first : publicAddress translation address with
      | none =>
        rw [first] at found
        exact absurd rfl found
      | some key =>
        have same := List.find?_some first
        exact mem_values_iff.mpr ⟨key, eq_of_beq same⟩

theorem connect_run {driver final : TypeDBDriverImpl}
    (ran : (Interaction.system Call Reply _).run (connect translation driver) events =
      some (.pure (.ok (), final))) :
    final.serverDrivers = setServerDrivers driver.serverDrivers translation.entries ∧
      contacted events = [] := by
  unfold connect at ran
  rw [Process.bind_apply] at ran
  change (Interaction.system Call Reply _).run
    ((anyOpen translation.values >>= _ : Async Unit) _) events = _ at ran
  generalize translation.values = addresses at ran
  cases addresses with
  | nil =>
    obtain ⟨-, impossible⟩ := run_pure_eq_pure ran
    cases impossible
  | cons address rest =>
    obtain ⟨opened, later, rfl, afterOpen⟩ := run_call_eq_pure ran
    cases opened with
    | error error =>
      obtain ⟨-, impossible⟩ := run_pure_eq_pure afterOpen
      cases impossible
    | ok _ =>
      obtain ⟨rfl, same⟩ := run_pure_eq_pure afterOpen
      cases same
      exact ⟨rfl, rfl⟩

theorem openCloud_run {driver final : TypeDBDriverImpl}
    (given : driver.initAddresses = .record translation)
    (ran : (Interaction.system Call Reply _).run (openCloud driver) events =
      some (.pure (.ok (), final))) :
    (∀ address, address ∈ translation.values ↔ address ∈ advertised events) ∧
    (∀ address ∈ contacted events, address ∈ translation.values) ∧
    final.serverDrivers = setServerDrivers driver.serverDrivers translation.entries := by
  unfold openCloud at ran
  rw [Process.bind_apply] at ran
  obtain ⟨before, after, ⟨outcome, fetchedDriver⟩, rfl, fetched, rest⟩ :=
    Interaction.run_bind_eq_pure ran
  cases outcome with
  | error error =>
    obtain ⟨-, impossible⟩ := run_pure_eq_pure rest
    cases impossible
  | ok members =>
    change (Interaction.system Call Reply _).run
      (fetchCloudServerAddressesFrom driver.initAddresses.values driver) before = _ at fetched
    rw [given] at fetched
    obtain ⟨rfl, named, within⟩ := fetchFrom_run fetched
    change (Interaction.system Call Reply _).run
      ((get >>= _ : Async Unit) fetchedDriver) after = _ at rest
    rw [Process.get_bind_apply] at rest
    cases accepted : addressTranslation members fetchedDriver.initAddresses with
    | error mismatch =>
      rw [accepted] at rest
      obtain ⟨-, impossible⟩ := run_pure_eq_pure rest
      cases impossible
    | ok result =>
      rw [accepted] at rest
      rw [given] at accepted
      obtain ⟨rfl, sameAddresses⟩ := mem_values_iff_advertised accepted
      obtain ⟨drivers, silent⟩ := connect_run rest
      rw [named, contacted_append, silent, List.append_nil]
      exact ⟨sameAddresses, within, drivers⟩

/-- The addresses are translated exactly if the translation is its own inverse. -/
theorem addresses_translated_iff {translation : Record String} (oneToOne : OneToOne translation)
    {driver final : TypeDBDriverImpl} {events : List Event}
    (made : TypeDBDriverImpl.new (.record translation) true = .ok driver)
    (ran : (Interaction.system Call Reply _).run (TypeDBDriverImpl.open driver) events =
      some (.pure (.ok (), final))) :
    Translated translation events final ↔
      ∀ publicAddress privateAddress, translation.lookup publicAddress = some privateAddress →
        translation.lookup privateAddress = some publicAddress := by
  unfold TypeDBDriverImpl.new at made
  split at made
  case isFalse => cases made
  case isTrue =>
    cases made
    obtain ⟨sameAddresses, within, drivers⟩ := openCloud_run rfl ran
    have server : ∀ replica : Replica, final.serverDriverOf replica =
        (translation.lookup replica.server).map fun address => .new address { address } := by
      intro replica
      unfold TypeDBDriverImpl.serverDriverOf
      rw [drivers, lookup_setServerDrivers ∅ translation.nodupKeys]
      exact Option.or_none
    constructor
    · intro translated publicAddress privateAddress found
      have listed : privateAddress ∈ advertised events :=
        (sameAddresses privateAddress).mp (mem_values_iff.mpr ⟨publicAddress, found⟩)
      obtain ⟨connected, driver, mapped, resolved, rfl⟩ :=
        translated.resolves ⟨privateAddress, 0, true, true⟩ listed
      rw [server, Option.map_eq_some_iff] at resolved
      obtain ⟨address, reached, rfl⟩ := resolved
      rw [oneToOne publicAddress address privateAddress found mapped]
      exact reached
    · intro inverse
      constructor
      · intro replica listed
        obtain ⟨publicAddress, found⟩ :=
          mem_values_iff.mp ((sameAddresses replica.server).mpr listed)
        refine ⟨publicAddress, .new publicAddress { address := publicAddress }, found, ?_, rfl⟩
        rw [server, inverse publicAddress replica.server found]
        rfl
      · intro address listed
        obtain ⟨publicAddress, found⟩ := mem_values_iff.mp (within address listed)
        exact AList.lookup_isSome.mp (by rw [inverse publicAddress address found]; rfl)

/-- Two servers that are reached at the addresses of one another. -/
def exchanged : Record String where
  entries := [⟨"a:1", "b:1"⟩, ⟨"b:1", "a:1"⟩]
  nodupKeys := by simp

theorem lookup_exchanged {publicAddress privateAddress : String}
    (found : exchanged.lookup publicAddress = some privateAddress) :
    publicAddress = "a:1" ∧ privateAddress = "b:1" ∨
      publicAddress = "b:1" ∧ privateAddress = "a:1" := by
  have entry := AList.mem_lookup_iff.mp (Option.mem_def.mpr found)
  simpa [exchanged] using entry

theorem addresses_translated_iff_exchanged :
    Translated exchanged
      [⟨.stubOpen "b:1", .ok ()⟩, ⟨.serversAll "b:1", .ok ["a:1", "b:1"]⟩,
        ⟨.anyOpen ["b:1", "a:1"], .ok ()⟩]
      { initAddresses := .record exchanged, isCloud := true, isOpen := true
        serverDrivers := setServerDrivers ∅ exchanged.entries } := by
  have made : TypeDBDriverImpl.new (.record exchanged) true =
      .ok { initAddresses := .record exchanged, isCloud := true } := rfl
  have oneToOne : OneToOne exchanged := by
    intro first second privateAddress found foundToo
    rcases lookup_exchanged found with ⟨rfl, rfl⟩ | ⟨rfl, rfl⟩
    · rcases lookup_exchanged foundToo with ⟨rfl, -⟩ | ⟨-, impossible⟩
      · rfl
      · exact absurd impossible (by decide)
    · rcases lookup_exchanged foundToo with ⟨-, impossible⟩ | ⟨rfl, -⟩
      · exact absurd impossible (by decide)
      · rfl
  refine (addresses_translated_iff oneToOne made rfl).mpr ?_
  intro publicAddress privateAddress found
  rcases lookup_exchanged found with ⟨rfl, rfl⟩ | ⟨rfl, rfl⟩ <;> rfl

/-- One server that is reached at another address than it advertises. -/
def translated : Record String where
  entries := [⟨"public:1", "private:1"⟩]
  nodupKeys := by simp

/-- The list of servers is asked of the private address, and the replica at that address has no
server driver. -/
theorem private_address_connected :
    (Interaction.system Call Reply _).run (TypeDBDriverImpl.open
        { initAddresses := .record translated, isCloud := true })
      [⟨.stubOpen "private:1", .ok ()⟩, ⟨.serversAll "private:1", .ok ["private:1"]⟩,
        ⟨.anyOpen ["private:1"], .ok ()⟩] =
      some (.pure (.ok (), { initAddresses := .record translated, isCloud := true, isOpen := true
                             serverDrivers := setServerDrivers ∅ translated.entries })) ∧
    (setServerDrivers ∅ translated.entries).lookup "private:1" = none ∧
    (setServerDrivers ∅ translated.entries).lookup "public:1" =
      some (.new "private:1" { address := "private:1" }) :=
  ⟨rfl, rfl, rfl⟩

end TypeDBDriver.Nodejs.Connection
