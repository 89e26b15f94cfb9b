import ArqBenchmark.Loops

namespace ArqBenchmark

inductive ArqProtocol
  | dummySCTP
  | stopAndWait
  | goBackN
  | selectiveRepeat
deriving DecidableEq, Repr

def arqProtocolToString : ArqProtocol → String
  | .dummySCTP => "dummy-sctp"
  | .stopAndWait => "stop-and-wait"
  | .goBackN => "go-back-n"
  | .selectiveRepeat => "selective-repeat"

structure ConfigAddressInfo where
  hostName : String
  serviceName : String
deriving DecidableEq, Repr

structure ConfigCommon where
  serverNames : ConfigAddressInfo
  clientNames : ConfigAddressInfo
  arqProtocol : ArqProtocol
  windowSize : Option UInt16
deriving DecidableEq, Repr

structure ConfigTxPkts where
  num : UInt16
  msInterval : UInt16
deriving DecidableEq, Repr

structure ConfigServer where
  txPkts : ConfigTxPkts
  arqTimeout : UInt16
deriving DecidableEq, Repr

structure ConfigLauncher where
  common : ConfigCommon
  server : Option ConfigServer
  -- Whether the client is to be launched: its configuration has no content.
  client : Bool
deriving DecidableEq, Repr

namespace Launcher

inductive Exception
  | helpException (what : String)
  | invalidArgument (what : String)
  | badAnyCast
  | runtimeError (what : String)
  | programOptions (what : String)
deriving DecidableEq, Repr

inductive DefaultValue
  | monostate
  | uint16 (value : UInt16)
  | string (value : String)
deriving DecidableEq, Repr

def loggingLevelInfo : UInt16 := 3

def loggingLevels : UInt16 := 5

def programOptionData : List (String × DefaultValue) := [
  ("help", .monostate),
  ("logging", .uint16 loggingLevelInfo),
  ("server-addr", .string "127.0.0.1"),
  ("server-port", .string "65534"),
  ("client-addr", .string "127.0.0.1"),
  ("client-port", .string "65535"),
  ("launch-server", .monostate),
  ("launch-client", .monostate),
  ("tx-pkt-num", .uint16 10),
  ("tx-pkt-interval", .uint16 10),
  ("arq-timeout", .uint16 50),
  ("arq-protocol", .string (arqProtocolToString .dummySCTP)),
  ("window-size", .uint16 100)]

inductive ValueSemantic
  | untyped
  | uint16 (defaultValue : UInt16)
  | string (defaultValue : String)
deriving DecidableEq, Repr

abbrev OptionsDescription := List (String × ValueSemantic)

def generateOptionsDescription : OptionsDescription :=
  programOptionData.map fun option =>
    match option.2 with
    | .monostate => (option.1, .untyped)
    | .uint16 value => (option.1, .uint16 value)
    | .string value => (option.1, .string value)

/-- The options of a command line, each with the tokens that follow it. -/
abbrev ParsedOptions := List (String × List String)

inductive VariableValue
  | uint16 (value : UInt16)
  | string (value : String)
deriving DecidableEq, Repr

namespace VariableValue

def asUint16 : VariableValue → Except Exception UInt16
  | .uint16 value => .ok value
  | _ => .error .badAnyCast

def asString : VariableValue → Except Exception String
  | .string value => .ok value
  | _ => .error .badAnyCast

end VariableValue

abbrev VariablesMap := String → Option VariableValue

/-- The calls to `boost::program_options`: `store` is `po::store` into an empty map, with `po::notify`. -/
structure ProgramOptions where
  parseCommandLine : OptionsDescription → List String → Except Exception ParsedOptions
  store : OptionsDescription → ParsedOptions → Except Exception VariablesMap

def setLoggingLevel (newLevel : UInt16) : Except Exception Unit :=
  if loggingLevels ≤ newLevel then .error (.invalidArgument "logging level out of range") else .ok ()

def getArqProtocolFromStr (input : String) : Except Exception ArqProtocol :=
  if input = arqProtocolToString .dummySCTP then .ok .dummySCTP
  else if input = arqProtocolToString .stopAndWait then .ok .stopAndWait
  else if input = arqProtocolToString .goBackN then .ok .goBackN
  else if input = arqProtocolToString .selectiveRepeat then .ok .selectiveRepeat
  else .error (.helpException ("invalid ARQ protocol \"" ++ input ++ "\" provided"))

def required (vm : VariablesMap) (name missing : String) : Except Exception String :=
  match vm name with
  | some value => value.asString
  | none => .error (.helpException missing)

/-- A field of the configuration that an option sets. Without the option it keeps its initial value. -/
def optional {α : Type} (vm : VariablesMap) (name : String) (initial : α)
    (parse : VariableValue → Except Exception α) : Except Exception α :=
  match vm name with
  | some value => parse value
  | none => .ok initial

def parseServer (vm : VariablesMap) : Except Exception (Option ConfigServer) :=
  if (vm "launch-server").isSome then do
    let num ← optional vm "tx-pkt-num" 0 VariableValue.asUint16
    let msInterval ← optional vm "tx-pkt-interval" 0 VariableValue.asUint16
    let arqTimeout ← optional vm "arq-timeout" 0 VariableValue.asUint16
    pure (some ⟨⟨num, msInterval⟩, arqTimeout⟩)
  else pure none

/-- The `try` block of `parseOptions`. -/
def parseEach (vm : VariablesMap) : Except Exception ConfigLauncher := do
  if (vm "help").isSome then throw (.helpException "help requested")
  optional vm "logging" () fun value => do setLoggingLevel (← value.asUint16)
  let serverHost ← required vm "server-addr" "server-addr not provided"
  let serverService ← required vm "server-port" "server-port not provided"
  let clientHost ← required vm "client-addr" "client-addr not provided"
  let clientService ← required vm "client-port" "client-addr not provided"
  let server ← parseServer vm
  let arqProtocol ← optional vm "arq-protocol" .dummySCTP fun value => do getArqProtocolFromStr (← value.asString)
  let windowSize ← optional vm "window-size" none fun value => do pure (some (← value.asUint16))
  pure {
    common := ⟨⟨serverHost, serverService⟩, ⟨clientHost, clientService⟩, arqProtocol, windowSize⟩
    server := server
    client := (vm "launch-client").isSome }

def parseOptions (po : ProgramOptions) (argv : List String) (description : OptionsDescription) :
    Except Exception ConfigLauncher := do
  let parsed ← po.parseCommandLine description argv
  let vm ← po.store description parsed
  match parseEach vm with
  | .error (.helpException _) => .error (.runtimeError "failed to parse options")
  | result => result

def generateConfiguration (po : ProgramOptions) (argv : List String) : Except Exception ConfigLauncher :=
  parseOptions po argv generateOptionsDescription

variable (lexicalCast : String → Option UInt16) (parsed : ParsedOptions)

namespace ParsedOptions

def Gives (name : String) : Prop := (parsed.lookup name).isSome = true

/-- The number that an option has: the one given, or without it the default value. -/
def HasNumber (name : String) (default value : UInt16) : Prop :=
  match parsed.lookup name with
  | some tokens => ∃ token, tokens = [token] ∧ lexicalCast token = some value
  | none => value = default

def HasText (name default value : String) : Prop :=
  match parsed.lookup name with
  | some tokens => tokens = [value]
  | none => value = default

end ParsedOptions

/-- What the library documents of the map in which it has stored the options of a command line. -/
structure Stored (description : OptionsDescription) (vm : VariablesMap) : Prop where
  -- An option that takes nothing is there if it is given.
  untyped : ∀ name, description.lookup name = some .untyped → ((vm name).isSome = true ↔ parsed.Gives name)
  -- A value that is given is converted to the type of the option.
  givenUint16 : ∀ name default tokens, description.lookup name = some (.uint16 default) →
    parsed.lookup name = some tokens →
      ∃ token value, tokens = [token] ∧ lexicalCast token = some value ∧ vm name = some (.uint16 value)
  givenString : ∀ name default tokens, description.lookup name = some (.string default) →
    parsed.lookup name = some tokens → ∃ token, tokens = [token] ∧ vm name = some (.string token)
  -- The default value is used if none is given.
  defaultUint16 : ∀ name default, description.lookup name = some (.uint16 default) →
    parsed.lookup name = none → vm name = some (.uint16 default)
  defaultString : ∀ name default, description.lookup name = some (.string default) →
    parsed.lookup name = none → vm name = some (.string default)

structure ConfiguredServer (server : Option ConfigServer) : Prop where
  launchServer : server.isSome = true ↔ parsed.Gives "launch-server"
  options : ∀ config, server = some config →
    parsed.HasNumber lexicalCast "tx-pkt-num" 10 config.txPkts.num ∧
      parsed.HasNumber lexicalCast "tx-pkt-interval" 10 config.txPkts.msInterval ∧
        parsed.HasNumber lexicalCast "arq-timeout" 50 config.arqTimeout

structure Configured (config : ConfigLauncher) : Prop where
  serverAddr : parsed.HasText "server-addr" "127.0.0.1" config.common.serverNames.hostName
  serverPort : parsed.HasText "server-port" "65534" config.common.serverNames.serviceName
  clientAddr : parsed.HasText "client-addr" "127.0.0.1" config.common.clientNames.hostName
  clientPort : parsed.HasText "client-port" "65535" config.common.clientNames.serviceName
  arqProtocol : parsed.HasText "arq-protocol" "dummy-sctp" (arqProtocolToString config.common.arqProtocol)
  windowSize : ∃ size, config.common.windowSize = some size ∧
    parsed.HasNumber lexicalCast "window-size" 100 size
  server : ConfiguredServer lexicalCast parsed config.server
  launchClient : config.client = true ↔ parsed.Gives "launch-client"

section Stored

variable {lexicalCast : String → Option UInt16} {parsed : ParsedOptions} {description : OptionsDescription}
  {vm : VariablesMap}

theorem Stored.number (h : Stored lexicalCast parsed description vm) (name : String) {default : UInt16}
    (hname : description.lookup name = some (.uint16 default)) :
    ∃ value, vm name = some (.uint16 value) ∧
      ∀ value', parsed.HasNumber lexicalCast name default value' ↔ value' = value := by
  cases hgiven : parsed.lookup name with
  | some tokens =>
    obtain ⟨token, value, rfl, hcast, hvm⟩ := h.givenUint16 name default tokens hname hgiven
    refine ⟨value, hvm, fun value' => ?_⟩
    simp [ParsedOptions.HasNumber, hgiven, hcast, eq_comm]
  | none =>
    refine ⟨default, h.defaultUint16 name default hname hgiven, fun value' => ?_⟩
    simp [ParsedOptions.HasNumber, hgiven]

theorem Stored.text (h : Stored lexicalCast parsed description vm) (name : String) {default : String}
    (hname : description.lookup name = some (.string default)) :
    ∃ value, vm name = some (.string value) ∧
      ∀ value', parsed.HasText name default value' ↔ value' = value := by
  cases hgiven : parsed.lookup name with
  | some tokens =>
    obtain ⟨token, rfl, hvm⟩ := h.givenString name default tokens hname hgiven
    refine ⟨token, hvm, fun value' => ?_⟩
    simp [ParsedOptions.HasText, hgiven, eq_comm]
  | none =>
    refine ⟨default, h.defaultString name default hname hgiven, fun value' => ?_⟩
    simp [ParsedOptions.HasText, hgiven]

theorem Stored.parseServer (h : Stored lexicalCast parsed generateOptionsDescription vm) :
    ∃ server, Launcher.parseServer vm = .ok server ∧
      ∀ server', ConfiguredServer lexicalCast parsed server' ↔ server' = server := by
  have hlaunch := h.untyped "launch-server" rfl
  cases hflag : (vm "launch-server").isSome with
  | false =>
    refine ⟨none, by rw [Launcher.parseServer, hflag]; rfl, fun server' => ?_⟩
    have hnot : ¬ parsed.Gives "launch-server" := by simpa [hflag] using hlaunch
    constructor
    · intro hserver
      simpa [hnot] using hserver.launchServer
    · rintro rfl
      exact ⟨by simpa using hnot, by simp⟩
  | true =>
    obtain ⟨num, hnum, num_iff⟩ := h.number "tx-pkt-num" rfl
    obtain ⟨interval, hinterval, interval_iff⟩ := h.number "tx-pkt-interval" rfl
    obtain ⟨timeout, htimeout, timeout_iff⟩ := h.number "arq-timeout" rfl
    refine ⟨some ⟨⟨num, interval⟩, timeout⟩, ?_, fun server' => ?_⟩
    · rw [Launcher.parseServer, hflag, optional, optional, optional, hnum, hinterval, htimeout]
      rfl
    · constructor
      · intro hserver
        obtain ⟨⟨⟨num', interval'⟩, timeout'⟩, rfl⟩ :=
          Option.isSome_iff_exists.mp (hserver.launchServer.mpr (hlaunch.mp hflag))
        have hoptions := hserver.options _ rfl
        simp only [num_iff, interval_iff, timeout_iff] at hoptions
        obtain ⟨rfl, rfl, rfl⟩ := hoptions
        rfl
      · rintro rfl
        refine ⟨by simpa using hlaunch.mp hflag, fun config hconfig => ?_⟩
        obtain rfl := Option.some.inj hconfig
        exact ⟨(num_iff _).mpr rfl, (interval_iff _).mpr rfl, (timeout_iff _).mpr rfl⟩

theorem Stored.parseEach (h : Stored lexicalCast parsed generateOptionsDescription vm)
    (hhelp : ¬ parsed.Gives "help") :
    ∃ (level : UInt16) (protocol : String) (configure : ArqProtocol → ConfigLauncher),
      (∀ level', parsed.HasNumber lexicalCast "logging" 3 level' ↔ level' = level) ∧
      (∀ text, parsed.HasText "arq-protocol" "dummy-sctp" text ↔ text = protocol) ∧
      (∀ config, Configured lexicalCast parsed config ↔
        ∃ p, arqProtocolToString p = protocol ∧ config = configure p) ∧
      Launcher.parseEach vm =
        (setLoggingLevel level >>= fun _ => configure <$> getArqProtocolFromStr protocol) := by
  obtain ⟨level, hlevel, level_iff⟩ := h.number "logging" rfl
  obtain ⟨serverAddr, hserverAddr, serverAddr_iff⟩ := h.text "server-addr" rfl
  obtain ⟨serverPort, hserverPort, serverPort_iff⟩ := h.text "server-port" rfl
  obtain ⟨clientAddr, hclientAddr, clientAddr_iff⟩ := h.text "client-addr" rfl
  obtain ⟨clientPort, hclientPort, clientPort_iff⟩ := h.text "client-port" rfl
  obtain ⟨server, hserver, server_iff⟩ := h.parseServer
  obtain ⟨protocol, hprotocol, protocol_iff⟩ := h.text "arq-protocol" rfl
  obtain ⟨size, hsize, size_iff⟩ := h.number "window-size" rfl
  have hnohelp : (vm "help").isSome = false := by
    simpa [hhelp] using h.untyped "help" rfl
  have hclient := h.untyped "launch-client" rfl
  refine ⟨level, protocol, fun p => ⟨⟨⟨serverAddr, serverPort⟩, ⟨clientAddr, clientPort⟩, p, some size⟩, server,
    (vm "launch-client").isSome⟩, level_iff, protocol_iff, fun config => ?_, ?_⟩
  · constructor
    · intro hconfig
      obtain ⟨⟨⟨addr, port⟩, ⟨addr', port'⟩, p, window⟩, server', client⟩ := config
      obtain ⟨size', rfl, hwindow⟩ := hconfig.windowSize
      refine ⟨p, (protocol_iff _).mp hconfig.arqProtocol, ?_⟩
      obtain rfl := (serverAddr_iff _).mp hconfig.serverAddr
      obtain rfl := (serverPort_iff _).mp hconfig.serverPort
      obtain rfl := (clientAddr_iff _).mp hconfig.clientAddr
      obtain rfl := (clientPort_iff _).mp hconfig.clientPort
      obtain rfl := (size_iff _).mp hwindow
      obtain rfl := (server_iff _).mp hconfig.server
      rw [ConfigLauncher.mk.injEq]
      exact ⟨rfl, rfl, Bool.eq_iff_iff.mpr (hconfig.launchClient.trans hclient.symm)⟩
    · rintro ⟨p, hp, rfl⟩
      exact {
        serverAddr := (serverAddr_iff _).mpr rfl
        serverPort := (serverPort_iff _).mpr rfl
        clientAddr := (clientAddr_iff _).mpr rfl
        clientPort := (clientPort_iff _).mpr rfl
        arqProtocol := (protocol_iff _).mpr hp
        windowSize := ⟨size, rfl, (size_iff _).mpr rfl⟩
        server := (server_iff _).mpr rfl
        launchClient := hclient }
  · rw [Launcher.parseEach, hnohelp, hserver, optional, optional, optional, required, required, required, required,
      hlevel, hserverAddr, hserverPort, hclientAddr, hclientPort, hprotocol, hsize]
    cases hset : setLoggingLevel level with
    | error e =>
      simp only [VariableValue.asUint16, Loops.ok_bind, hset, Loops.error_bind, Bool.false_eq_true, ↓reduceIte]
    | ok _ =>
      cases hparse : getArqProtocolFromStr protocol with
      | error e =>
        simp only [VariableValue.asUint16, VariableValue.asString, Loops.ok_bind, hset, hparse, Loops.error_bind,
          Loops.map_error, Bool.false_eq_true, ↓reduceIte]
      | ok p =>
        simp only [VariableValue.asUint16, VariableValue.asString, Loops.ok_bind, hset, hparse, Loops.map_ok,
          Bool.false_eq_true, ↓reduceIte]
        rfl

end Stored

theorem getArqProtocolFromStr_eq_ok {input : String} {p : ArqProtocol} :
    getArqProtocolFromStr input = .ok p ↔ input = arqProtocolToString p := by
  constructor
  · intro h
    simp only [getArqProtocolFromStr] at h
    split at h <;> [skip; split at h <;> [skip; split at h <;> [skip; split at h]]]
    all_goals cases h
    all_goals assumption
  · rintro rfl
    cases p <;> rfl

theorem setLoggingLevel_cases (newLevel : UInt16) :
    newLevel < loggingLevels ∧ setLoggingLevel newLevel = .ok () ∨
      ¬ newLevel < loggingLevels ∧
        setLoggingLevel newLevel = .error (.invalidArgument "logging level out of range") := by
  by_cases hlevel : newLevel < loggingLevels
  · exact .inl ⟨hlevel, if_neg (UInt16.not_le.mpr hlevel)⟩
  · exact .inr ⟨hlevel, if_pos (UInt16.not_lt.mp hlevel)⟩

theorem getArqProtocolFromStr_cases (input : String) :
    (∃ p, input = arqProtocolToString p ∧ getArqProtocolFromStr input = .ok p) ∨
      (∀ p, input ≠ arqProtocolToString p) ∧ ∃ what, getArqProtocolFromStr input = .error (.helpException what) := by
  cases hparse : getArqProtocolFromStr input with
  | ok p => exact .inl ⟨p, getArqProtocolFromStr_eq_ok.mp hparse, rfl⟩
  | error e =>
    refine .inr ⟨fun p hp => ?_, ?_⟩
    · rw [getArqProtocolFromStr_eq_ok.mpr hp] at hparse
      cases hparse
    · simp only [getArqProtocolFromStr] at hparse
      split at hparse <;> [skip; split at hparse <;> [skip; split at hparse <;> [skip; split at hparse]]]
      all_goals cases hparse
      exact ⟨_, rfl⟩

theorem arqProtocolToString_injective : Function.Injective arqProtocolToString := by
  intro p q h
  rw [← getArqProtocolFromStr_eq_ok, getArqProtocolFromStr_eq_ok.mpr rfl] at h
  exact (Except.ok.inj h)

section Configuration

variable {lexicalCast : String → Option UInt16} {parsed : ParsedOptions} {po : ProgramOptions}
  {argv : List String} {vm : VariablesMap}

/-- A command line that the library accepts is turned down for nothing but a request for help, a logging level or
a protocol that there is not; otherwise the configuration is the one it asks for. -/
theorem parse_options_configures (hparse : po.parseCommandLine generateOptionsDescription argv = .ok parsed)
    (hstore : po.store generateOptionsDescription parsed = .ok vm)
    (hvm : Stored lexicalCast parsed generateOptionsDescription vm) :
    (∀ config, generateConfiguration po argv = .ok config ↔ ¬ parsed.Gives "help" ∧
      (∃ level, parsed.HasNumber lexicalCast "logging" 3 level ∧ level < loggingLevels) ∧
        Configured lexicalCast parsed config) ∧
    ∀ e, generateConfiguration po argv = .error e ↔
      e = .runtimeError "failed to parse options" ∧ (parsed.Gives "help" ∨
        (∃ level, parsed.HasNumber lexicalCast "logging" 3 level ∧ level < loggingLevels) ∧
          ∀ p, ¬ parsed.HasText "arq-protocol" "dummy-sctp" (arqProtocolToString p)) ∨
      e = .invalidArgument "logging level out of range" ∧ ¬ parsed.Gives "help" ∧
        ∃ level, parsed.HasNumber lexicalCast "logging" 3 level ∧ ¬ level < loggingLevels := by
  have heq : generateConfiguration po argv = match parseEach vm with
      | .error (.helpException _) => .error (.runtimeError "failed to parse options")
      | result => result := by
    rw [generateConfiguration, parseOptions, hparse, Loops.ok_bind, hstore, Loops.ok_bind]
  rw [heq]
  by_cases hhelp : parsed.Gives "help"
  · have hgiven := (hvm.untyped "help" rfl).mpr hhelp
    have heach : parseEach vm = .error (.helpException "help requested") := by
      rw [parseEach, hgiven]
      rfl
    simp [heach, hhelp, eq_comm]
  · obtain ⟨level, protocol, configure, level_iff, protocol_iff, configured_iff, heach⟩ := hvm.parseEach hhelp
    rw [heach]
    simp only [level_iff, protocol_iff, configured_iff]
    rcases setLoggingLevel_cases level with ⟨hlevel, hset⟩ | ⟨hlevel, hset⟩
    · rcases getArqProtocolFromStr_cases protocol with ⟨p, rfl, hget⟩ | ⟨hnone, what, hget⟩
      · simp [hset, hget, hhelp, hlevel, arqProtocolToString_injective.eq_iff, eq_comm]
      · simp [hset, hget, hhelp, hlevel, hnone, eq_comm]
    · simp [hset, hhelp, hlevel, eq_comm]

end Configuration

def sampleArgv : List String :=
  ["launcher", "--launch-server", "--arq-protocol", "go-back-n", "--tx-pkt-num", "20"]

def sampleParsed : ParsedOptions :=
  [("launch-server", []), ("arq-protocol", ["go-back-n"]), ("tx-pkt-num", ["20"])]

def sampleCast (token : String) : Option UInt16 :=
  if token = "20" then some 20 else none

def sampleMap (description : OptionsDescription) (parsed : ParsedOptions) : VariablesMap := fun name =>
  match description.lookup name, parsed.lookup name with
  | some .untyped, some _ => some (.string "")
  | some (.uint16 _), some [token] => (sampleCast token).map .uint16
  | some (.string _), some [token] => some (.string token)
  | some (.uint16 default), none => some (.uint16 default)
  | some (.string default), none => some (.string default)
  | _, _ => none

def sampleProgramOptions : ProgramOptions where
  parseCommandLine _ argv :=
    if argv = sampleArgv then .ok sampleParsed else .error (.programOptions "unrecognised option")
  store description parsed := .ok (sampleMap description parsed)

theorem sampleParsed_lookup {name : String} {tokens : List String} (h : sampleParsed.lookup name = some tokens) :
    name = "launch-server" ∧ tokens = [] ∨ name = "arq-protocol" ∧ tokens = ["go-back-n"] ∨
      name = "tx-pkt-num" ∧ tokens = ["20"] := by
  obtain ⟨before, after, hsplit, -⟩ := List.lookup_eq_some_iff.mp h
  have hmem : (name, tokens) ∈ sampleParsed := hsplit ▸ by simp
  simpa [sampleParsed] using hmem

theorem sampleMap_stored : Stored sampleCast sampleParsed generateOptionsDescription
    (sampleMap generateOptionsDescription sampleParsed) where
  untyped name hname := by
    rw [sampleMap, hname, ParsedOptions.Gives]
    cases sampleParsed.lookup name <;> rfl
  givenUint16 name default tokens hname htokens := by
    rcases sampleParsed_lookup htokens with ⟨rfl, -⟩ | ⟨rfl, -⟩ | ⟨rfl, rfl⟩
    · cases hname
    · cases hname
    · exact ⟨"20", 20, rfl, rfl, rfl⟩
  givenString name default tokens hname htokens := by
    rcases sampleParsed_lookup htokens with ⟨rfl, -⟩ | ⟨rfl, rfl⟩ | ⟨rfl, -⟩
    · cases hname
    · exact ⟨"go-back-n", rfl, rfl⟩
    · cases hname
  defaultUint16 name default hname hgiven := by rw [sampleMap, hname, hgiven]
  defaultString name default hname hgiven := by rw [sampleMap, hname, hgiven]

theorem parse_options_configures_run :
    generateConfiguration sampleProgramOptions sampleArgv = .ok {
      common := ⟨⟨"127.0.0.1", "65534"⟩, ⟨"127.0.0.1", "65535"⟩, .goBackN, some 100⟩
      server := some ⟨⟨20, 10⟩, 50⟩
      client := false } := by
  have hparse : sampleProgramOptions.parseCommandLine generateOptionsDescription sampleArgv = .ok sampleParsed := by
    simp [sampleProgramOptions]
  refine ((parse_options_configures hparse rfl sampleMap_stored).1 _).mpr ⟨?_, ⟨3, rfl, by decide⟩, ?_⟩
  · simp [ParsedOptions.Gives, sampleParsed]
  · exact {
      serverAddr := rfl
      serverPort := rfl
      clientAddr := rfl
      clientPort := rfl
      arqProtocol := rfl
      windowSize := ⟨100, rfl, rfl⟩
      server := ⟨iff_of_true rfl rfl, by
        rintro config ⟨⟩
        exact ⟨⟨"20", rfl, rfl⟩, rfl, rfl⟩⟩
      launchClient := by simp [ParsedOptions.Gives, sampleParsed] }

end Launcher

end ArqBenchmark
