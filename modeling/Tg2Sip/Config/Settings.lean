/-
`Settings`: what the program keeps of its INI file.

The constructor fills forty fields, each by a line of its own with its section,
name, default, conversion and bounds, unless the file cannot be read; then the
strings are empty and the other fields hold what the memory held before.
-/

import Tg2Sip.Config.Reader

namespace Tg2Sip.Config

structure Settings where
  isLoaded : Bool
  consoleMinLevel : Int32
  fileMinLevel : Int32
  logLevel : Int32
  pjsipLogLevel : Int32
  pjsipLogSipMessages : Bool
  tgvoipLogLevel : Int32
  tdlibLogLevel : Int32
  sipPort : UInt32
  idUri : String
  callbackUri : String
  publicAddress : String
  stunServer : String
  rawPcm : Bool
  sipThreadCount : UInt32
  sipPortRange : UInt32
  apiId : Int32
  apiHash : String
  phoneNumber : String
  dbFolder : String
  systemLanguageCode : String
  deviceModel : String
  systemVersion : String
  applicationVersion : String
  udpP2p : Bool
  udpReflector : Bool
  aecEnabled : Bool
  nsEnabled : Bool
  agcEnabled : Bool
  proxyEnabled : Bool
  proxyAddress : String
  proxyPort : Int32
  proxyUsername : String
  proxyPassword : String
  voipProxyEnabled : Bool
  voipProxyAddress : String
  voipProxyPort : UInt16
  voipProxyUsername : String
  voipProxyPassword : String
  extraWaitTime : UInt32
  peerFloodTime : UInt32
  deriving DecidableEq, Repr

def clamp (value low high : Int32) : Int32 :=
  if value < low then low else if high < value then high else value

def Settings.unassigned (memory : Settings) : Settings :=
  { memory with
    isLoaded := false
    idUri := ""
    callbackUri := ""
    publicAddress := ""
    stunServer := ""
    apiHash := ""
    phoneNumber := ""
    dbFolder := ""
    systemLanguageCode := ""
    deviceModel := ""
    systemVersion := ""
    applicationVersion := ""
    proxyAddress := ""
    proxyUsername := ""
    proxyPassword := ""
    voipProxyAddress := ""
    voipProxyUsername := ""
    voipProxyPassword := "" }

def Settings.assigned (reader : INIReader) : Settings :=
  { isLoaded := false
    consoleMinLevel := clamp (Int32.ofInt (reader.getInteger "logging" "console_min_level" 0)) 0 6
    fileMinLevel := clamp (Int32.ofInt (reader.getInteger "logging" "file_min_level" 0)) 0 6
    logLevel := clamp (Int32.ofInt (reader.getInteger "logging" "core" 2)) 0 6
    tdlibLogLevel := clamp (Int32.ofInt (reader.getInteger "logging" "tdlib" 3)) 0 6
    tgvoipLogLevel := clamp (Int32.ofInt (reader.getInteger "logging" "tgvoip" 5)) 0 6
    pjsipLogLevel := clamp (Int32.ofInt (reader.getInteger "logging" "pjsip" 2)) 0 6
    pjsipLogSipMessages := reader.getBoolean "logging" "sip_messages" true
    sipPort := UInt32.ofInt (reader.getInteger "sip" "port" 0)
    idUri := reader.get "sip" "id_uri" "sip:localhost"
    callbackUri := reader.get "sip" "callback_uri" ""
    publicAddress := reader.get "sip" "public_address" ""
    stunServer := reader.get "sip" "stun_server" ""
    rawPcm := reader.getBoolean "sip" "raw_pcm" true
    sipThreadCount := UInt32.ofInt (reader.getInteger "sip" "thread_count" 1)
    sipPortRange := UInt32.ofInt (reader.getInteger "sip" "port_range" 0)
    apiId := Int32.ofInt (reader.getInteger "telegram" "api_id" 0)
    apiHash := reader.get "telegram" "api_hash" ""
    phoneNumber := reader.get "telegram" "phone_number" ""
    dbFolder := reader.get "telegram" "database_folder" ""
    systemLanguageCode := reader.get "telegram" "database_folder" "en-US"
    deviceModel := reader.get "telegram" "device_model" "PC"
    systemVersion := reader.get "telegram" "system_version" "Linux"
    applicationVersion := reader.get "telegram" "application_version" "1.0"
    udpP2p := reader.getBoolean "telegram" "udp_p2p" false
    udpReflector := reader.getBoolean "telegram" "udp_reflector" true
    aecEnabled := reader.getBoolean "telegram" "enable_aec" false
    nsEnabled := reader.getBoolean "telegram" "enable_ns" false
    agcEnabled := reader.getBoolean "telegram" "enable_agc" false
    proxyEnabled := reader.getBoolean "telegram" "use_proxy" false
    proxyAddress := reader.get "telegram" "proxy_address" ""
    proxyPort := Int32.ofInt (reader.getInteger "telegram" "proxy_port" 0)
    proxyUsername := reader.get "telegram" "proxy_username" ""
    proxyPassword := reader.get "telegram" "proxy_password" ""
    voipProxyEnabled := reader.getBoolean "telegram" "use_voip_proxy" false
    voipProxyAddress := reader.get "telegram" "voip_proxy_address" ""
    voipProxyPort := UInt16.ofInt (reader.getInteger "telegram" "voip_proxy_port" 0)
    voipProxyUsername := reader.get "telegram" "voip_proxy_username" ""
    voipProxyPassword := reader.get "telegram" "voip_proxy_password" ""
    extraWaitTime := UInt32.ofInt (reader.getInteger "other" "extra_wait_time" 30)
    peerFloodTime := UInt32.ofInt (reader.getInteger "other" "peer_flood_time" 86400) }

/-- `Settings::Settings`, on memory that holds anything. -/
def Settings.construct (memory : Settings) (reader : INIReader) : Settings :=
  if reader.parseError < 0 then memory.unassigned
  else
    let settings := Settings.assigned reader
    if settings.apiId == 0 || settings.apiHash.isEmpty then settings
    else { settings with isLoaded := true }

/-- An object that is constructed from the reader, wherever it lies. -/
def INIReader.Constructs (reader : INIReader) (settings : Settings) : Prop :=
  ∃ memory, Settings.construct memory reader = settings

/-- The fields besides `is_loaded_`, in the order of their assignments. -/
inductive Field where
  | consoleMinLevel
  | fileMinLevel
  | logLevel
  | tdlibLogLevel
  | tgvoipLogLevel
  | pjsipLogLevel
  | pjsipLogSipMessages
  | sipPort
  | idUri
  | callbackUri
  | publicAddress
  | stunServer
  | rawPcm
  | sipThreadCount
  | sipPortRange
  | apiId
  | apiHash
  | phoneNumber
  | dbFolder
  | systemLanguageCode
  | deviceModel
  | systemVersion
  | applicationVersion
  | udpP2p
  | udpReflector
  | aecEnabled
  | nsEnabled
  | agcEnabled
  | proxyEnabled
  | proxyAddress
  | proxyPort
  | proxyUsername
  | proxyPassword
  | voipProxyEnabled
  | voipProxyAddress
  | voipProxyPort
  | voipProxyUsername
  | voipProxyPassword
  | extraWaitTime
  | peerFloodTime
  deriving DecidableEq, Repr

inductive Value where
  | int (value : Int32)
  | unsigned (value : UInt32)
  | short (value : UInt16)
  | bool (value : Bool)
  | text (value : String)
  deriving DecidableEq, Repr

def Settings.value (settings : Settings) : Field → Value
  | .consoleMinLevel => .int settings.consoleMinLevel
  | .fileMinLevel => .int settings.fileMinLevel
  | .logLevel => .int settings.logLevel
  | .tdlibLogLevel => .int settings.tdlibLogLevel
  | .tgvoipLogLevel => .int settings.tgvoipLogLevel
  | .pjsipLogLevel => .int settings.pjsipLogLevel
  | .pjsipLogSipMessages => .bool settings.pjsipLogSipMessages
  | .sipPort => .unsigned settings.sipPort
  | .idUri => .text settings.idUri
  | .callbackUri => .text settings.callbackUri
  | .publicAddress => .text settings.publicAddress
  | .stunServer => .text settings.stunServer
  | .rawPcm => .bool settings.rawPcm
  | .sipThreadCount => .unsigned settings.sipThreadCount
  | .sipPortRange => .unsigned settings.sipPortRange
  | .apiId => .int settings.apiId
  | .apiHash => .text settings.apiHash
  | .phoneNumber => .text settings.phoneNumber
  | .dbFolder => .text settings.dbFolder
  | .systemLanguageCode => .text settings.systemLanguageCode
  | .deviceModel => .text settings.deviceModel
  | .systemVersion => .text settings.systemVersion
  | .applicationVersion => .text settings.applicationVersion
  | .udpP2p => .bool settings.udpP2p
  | .udpReflector => .bool settings.udpReflector
  | .aecEnabled => .bool settings.aecEnabled
  | .nsEnabled => .bool settings.nsEnabled
  | .agcEnabled => .bool settings.agcEnabled
  | .proxyEnabled => .bool settings.proxyEnabled
  | .proxyAddress => .text settings.proxyAddress
  | .proxyPort => .int settings.proxyPort
  | .proxyUsername => .text settings.proxyUsername
  | .proxyPassword => .text settings.proxyPassword
  | .voipProxyEnabled => .bool settings.voipProxyEnabled
  | .voipProxyAddress => .text settings.voipProxyAddress
  | .voipProxyPort => .short settings.voipProxyPort
  | .voipProxyUsername => .text settings.voipProxyUsername
  | .voipProxyPassword => .text settings.voipProxyPassword
  | .extraWaitTime => .unsigned settings.extraWaitTime
  | .peerFloodTime => .unsigned settings.peerFloodTime

def Field.key : Field → Key
  | .consoleMinLevel => ⟨"logging", "console_min_level"⟩
  | .fileMinLevel => ⟨"logging", "file_min_level"⟩
  | .logLevel => ⟨"logging", "core"⟩
  | .tdlibLogLevel => ⟨"logging", "tdlib"⟩
  | .tgvoipLogLevel => ⟨"logging", "tgvoip"⟩
  | .pjsipLogLevel => ⟨"logging", "pjsip"⟩
  | .pjsipLogSipMessages => ⟨"logging", "sip_messages"⟩
  | .sipPort => ⟨"sip", "port"⟩
  | .idUri => ⟨"sip", "id_uri"⟩
  | .callbackUri => ⟨"sip", "callback_uri"⟩
  | .publicAddress => ⟨"sip", "public_address"⟩
  | .stunServer => ⟨"sip", "stun_server"⟩
  | .rawPcm => ⟨"sip", "raw_pcm"⟩
  | .sipThreadCount => ⟨"sip", "thread_count"⟩
  | .sipPortRange => ⟨"sip", "port_range"⟩
  | .apiId => ⟨"telegram", "api_id"⟩
  | .apiHash => ⟨"telegram", "api_hash"⟩
  | .phoneNumber => ⟨"telegram", "phone_number"⟩
  | .dbFolder => ⟨"telegram", "database_folder"⟩
  | .systemLanguageCode => ⟨"telegram", "database_folder"⟩
  | .deviceModel => ⟨"telegram", "device_model"⟩
  | .systemVersion => ⟨"telegram", "system_version"⟩
  | .applicationVersion => ⟨"telegram", "application_version"⟩
  | .udpP2p => ⟨"telegram", "udp_p2p"⟩
  | .udpReflector => ⟨"telegram", "udp_reflector"⟩
  | .aecEnabled => ⟨"telegram", "enable_aec"⟩
  | .nsEnabled => ⟨"telegram", "enable_ns"⟩
  | .agcEnabled => ⟨"telegram", "enable_agc"⟩
  | .proxyEnabled => ⟨"telegram", "use_proxy"⟩
  | .proxyAddress => ⟨"telegram", "proxy_address"⟩
  | .proxyPort => ⟨"telegram", "proxy_port"⟩
  | .proxyUsername => ⟨"telegram", "proxy_username"⟩
  | .proxyPassword => ⟨"telegram", "proxy_password"⟩
  | .voipProxyEnabled => ⟨"telegram", "use_voip_proxy"⟩
  | .voipProxyAddress => ⟨"telegram", "voip_proxy_address"⟩
  | .voipProxyPort => ⟨"telegram", "voip_proxy_port"⟩
  | .voipProxyUsername => ⟨"telegram", "voip_proxy_username"⟩
  | .voipProxyPassword => ⟨"telegram", "voip_proxy_password"⟩
  | .extraWaitTime => ⟨"other", "extra_wait_time"⟩
  | .peerFloodTime => ⟨"other", "peer_flood_time"⟩

end Tg2Sip.Config
