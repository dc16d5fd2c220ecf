import Outbox.Adapter.Basic
import Outbox.Adapter.FanOut

/-!
# The registry of adapters

The settings list the adapters to load by name, without regard to case or blanks around.
Each name is resolved by a factory; a name without one, or whose factory fails, is left
out and does not keep the others from loading. The list is loaded once, when it is first
needed, and stays the same after that.
-/

namespace Outbox

/-- Which adapters to load, and what their factories need. -/
structure AdapterSettings where
  /-- The names, in the order of dispatch. -/
  active : List String := ["payroll", "badge"]
  /-- Where the payroll system is. -/
  payrollBaseUrl : String := "http://localhost:9090"
  /-- How long one call may take. -/
  timeout : Span := .ofMillis 10000
  deriving DecidableEq

/-- Builds an adapter. -/
abbrev AdapterFactory := AdapterSettings → Except DeliveryError Adapter

/-- The registry. -/
structure Registry where
  /-- Which adapters to load. -/
  settings : AdapterSettings
  /-- The factories by name, in the order of the names. -/
  factories : List (String × AdapterFactory) := []
  /-- The adapters, once they are loaded. -/
  loaded : Option (List Adapter) := none

namespace Registry

/-- The form of a name that counts. -/
def normalName (name : String) : String := Text.lower (Text.trim name)

/-- Puts a factory among others, in place of the one that has its name. -/
def placeFactory (name : String) (f : AdapterFactory) :
    List (String × AdapterFactory) → List (String × AdapterFactory)
  | [] => [(name, f)]
  | (n, g) :: rest =>
    if name < n then (name, f) :: (n, g) :: rest
    else if name = n then (name, f) :: rest
    else (n, g) :: placeFactory name f rest

/-- Registers a factory under a name, in place of the one that is there. -/
def register (r : Registry) (name : String) (f : AdapterFactory) : Registry :=
  { r with factories := placeFactory (normalName name) f r.factories }

/-- The factory of the payroll adapter. -/
def payrollFactory : AdapterFactory := fun settings =>
  (Payroll.ofSettings { baseUrl := settings.payrollBaseUrl }).map .payroll

/-- The factory of the badge adapter. -/
def badgeFactory : AdapterFactory := fun _ => .ok (.badge {})

/-- A registry that knows the payroll and badge adapters. -/
def builtin (settings : AdapterSettings) : Registry :=
  (register { settings := settings } Payroll.name payrollFactory).register BadgeSystem.name
    badgeFactory

/-- The factory of a name. -/
def factory? (r : Registry) (name : String) : Option AdapterFactory :=
  (r.factories.find? fun f => f.1 == name).map (·.2)

/-- Builds the adapter of a name. -/
def build (r : Registry) (name : String) : Except DeliveryError Adapter :=
  match r.factory? name with
  | some f => f r.settings
  | none => .error (.unknownAdapter name)

/-- Loads the adapter of one listed name, unless one of that name is loaded already. -/
def loadOne (r : Registry) (done : List Adapter) (listed : String) : List Adapter :=
  let name := normalName listed
  if name.isEmpty || done.any fun a => a.name == name then done
  else
    match r.build name with
    | .ok a => done ++ [a]
    | .error _ => done

/-- The adapters of all listed names. -/
def load (r : Registry) : List Adapter := r.settings.active.foldl r.loadOne []

/-- The adapters, loaded if they are not yet. -/
def adapters (r : Registry) : List Adapter × Registry :=
  match r.loaded with
  | some as => (as, r)
  | none => (r.load, { r with loaded := some r.load })

/-- Loads the adapters if they are not loaded yet, and counts them. -/
def loadAll (r : Registry) : Nat × Registry :=
  let (as, r) := r.adapters
  (as.length, r)

/-- The adapters are loaded. -/
def isInitialized (r : Registry) : Bool := r.loaded.isSome

/-- The names of the adapters, in the order of dispatch. -/
def names (r : Registry) : List String × Registry :=
  let (as, r) := r.adapters
  (as.map Adapter.name, r)

/-- A list of quoted texts. -/
def listText (ss : List String) : String :=
  "[" ++ String.intercalate ", " (ss.map Text.quoted) ++ "]"

/-- What the registry shows of itself. -/
def describe (r : Registry) : String :=
  let loaded := match r.loaded with
    | none => "None"
    | some as => "Some(" ++ toString as.length ++ ")"
  "AdapterRegistry \x7b active: " ++ listText r.settings.active ++ ", factories: " ++
    listText (r.factories.map (·.1)) ++ ", loaded: " ++ loaded ++ " \x7d"

/-- Asks adapters for their health on the spot. The task of a call has the number of the
adapter's place, and a call of no adapter never ends. -/
def healthHost (adapters : List Adapter) (limit : Span)
    (send : PeerRequest → Option PeerResponse) : HealthHost Id (CallEnd Health) where
  call place _ := (adapters[place]?).elim .timedOut fun a => (a.health send).callEnd limit place
  await e := e

/-- What is known about the adapters, each asked under the time limit. -/
def healthReports (r : Registry) (send : PeerRequest → Option PeerResponse) :
    List HealthReport × Registry :=
  let (as, r) := r.adapters
  let limit := r.settings.timeout
  (Id.run ((healthHost as limit send).run (as.map Adapter.name) limit), r)

end Registry

end Outbox
