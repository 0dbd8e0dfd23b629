/-
What both TDLib clients say and hear while they sign on.

`tg::Client` and `TDClient` build the same parameters from the same settings.
Of the objects of TDLib only the parts that one of the two reads are kept.
-/

namespace Tg2Sip.Tg

inductive AuthorizationState where
  | waitTdlibParameters
  | waitEncryptionKey
  | waitPhoneNumber
  | waitCode
  | waitRegistration
  | waitPassword
  | waitOtherDeviceConfirmation (link : String)
  | ready
  | loggingOut
  | closing
  | closed
  deriving DecidableEq, Repr

/-- The settings that are read while signing on. -/
structure Settings where
  apiId : Int
  apiHash : String
  phoneNumber : String := ""
  dbFolder : String := ""
  sysLangCode : String := "en-US"
  deviceModel : String := "PC"
  systemVersion : String := "Linux"
  appVersion : String := "1.0"
  proxyEnabled : Bool := false
  proxyAddress : String := ""
  proxyPort : Int := 0
  proxyUsername : String := ""
  proxyPassword : String := ""
  deriving DecidableEq, Repr

structure TdlibParameters where
  apiId : Int
  apiHash : String
  databaseDirectory : String
  systemLanguageCode : String
  deviceModel : String
  systemVersion : String
  applicationVersion : String
  useFileDatabase : Bool
  useChatInfoDatabase : Bool
  useMessageDatabase : Bool
  useSecretChats : Bool
  enableStorageOptimizer : Bool
  deriving DecidableEq, Repr

structure ProxyTypeSocks5 where
  username : String
  password : String
  deriving DecidableEq, Repr

/-- `td_api::Function`, with the requests that are made elsewhere left open. -/
inductive Request (Other : Type) where
  | setTdlibParameters (parameters : Option TdlibParameters)
  | checkDatabaseEncryptionKey (encryptionKey : String)
  | addProxy (server : String) (port : Int) (enable : Bool) (type : ProxyTypeSocks5)
  | disableProxy
  | setAuthenticationPhoneNumber (phoneNumber : String)
  | checkAuthenticationCode (code : String)
  | registerUser (firstName lastName : String)
  | checkAuthenticationPassword (password : String)
  | other (request : Other)
  deriving DecidableEq, Repr

variable {Other : Type}

/-- `init_lib_parameters`. -/
def Settings.initLibParameters (settings : Settings) : TdlibParameters :=
  { apiId := settings.apiId
    apiHash := settings.apiHash
    databaseDirectory := settings.dbFolder
    systemLanguageCode := settings.sysLangCode
    deviceModel := settings.deviceModel
    systemVersion := settings.systemVersion
    applicationVersion := settings.appVersion
    useFileDatabase := false
    useChatInfoDatabase := true
    useMessageDatabase := false
    useSecretChats := false
    enableStorageOptimizer := true }

def Settings.initProxy (settings : Settings) : Request Other :=
  if settings.proxyEnabled then
    .addProxy settings.proxyAddress settings.proxyPort true
      ⟨settings.proxyUsername, settings.proxyPassword⟩
  else .disableProxy

def Request.setsProxy : Request Other → Bool
  | .addProxy .. => true
  | .disableProxy => true
  | _ => false

@[simp] theorem setsProxy_initProxy (settings : Settings) :
    (settings.initProxy : Request Other).setsProxy = true := by
  unfold Settings.initProxy
  split <;> rfl

/-- The two states that TDLib asks through before anything else. -/
def AuthorizationState.startsUp : AuthorizationState → Bool
  | .waitTdlibParameters => true
  | .waitEncryptionKey => true
  | _ => false

def AuthorizationState.signsOn : AuthorizationState → Bool
  | .ready => true
  | .waitPhoneNumber => true
  | .waitCode => true
  | .waitRegistration => true
  | .waitPassword => true
  | .waitOtherDeviceConfirmation _ => true
  | _ => false

def AuthorizationState.shutsDown : AuthorizationState → Bool
  | .loggingOut => true
  | .closing => true
  | .closed => true
  | _ => false

/-- The sequences of states that TDLib delivers in one session, cut off at any
point. -/
def Deliverable (states : List AuthorizationState) : Prop :=
  ∃ signOn shutDown : List AuthorizationState,
    (∀ state ∈ signOn, state.signsOn = true) ∧ (∀ state ∈ shutDown, state.shutsDown = true) ∧
      states <+: [.waitTdlibParameters, .waitEncryptionKey] ++ signOn ++ shutDown

def Settings.sample : Settings :=
  { apiId := 7, apiHash := "hash", phoneNumber := "37060000000" }

end Tg2Sip.Tg
