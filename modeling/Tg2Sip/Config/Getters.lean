/-
What the calls and the clients of TDLib get of the settings.

The getters hand out the fields as they are.  A change of a key that none of the
fields behind the getters is assigned from leaves what they hand out alone.
-/

import Tg2Sip.Config.Leak
import Tg2Sip.Cpp.Authorization
import Tg2Sip.Cpp.FloodWait

namespace Tg2Sip.Config

/-- What a call gets. -/
def Settings.calls (settings : Settings) : Tg2Sip.Cpp.Settings :=
  { callbackUri := settings.callbackUri
    udpP2p := settings.udpP2p
    udpReflector := settings.udpReflector
    aecEnabled := settings.aecEnabled
    nsEnabled := settings.nsEnabled
    agcEnabled := settings.agcEnabled
    voipProxyEnabled := settings.voipProxyEnabled
    voipProxyAddress := settings.voipProxyAddress
    voipProxyPort := settings.voipProxyPort
    voipProxyUsername := settings.voipProxyUsername
    voipProxyPassword := settings.voipProxyPassword
    extraWaitTime := settings.extraWaitTime
    peerFloodTime := settings.peerFloodTime }

/-- What a client gets while it signs on. -/
def Settings.client (settings : Settings) : Tg2Sip.Tg.Settings :=
  { apiId := settings.apiId.toInt
    apiHash := settings.apiHash
    phoneNumber := settings.phoneNumber
    dbFolder := settings.dbFolder
    sysLangCode := settings.systemLanguageCode
    deviceModel := settings.deviceModel
    systemVersion := settings.systemVersion
    appVersion := settings.applicationVersion
    proxyEnabled := settings.proxyEnabled
    proxyAddress := settings.proxyAddress
    proxyPort := settings.proxyPort.toInt
    proxyUsername := settings.proxyUsername
    proxyPassword := settings.proxyPassword }

def callFields : List Field :=
  [.callbackUri, .udpP2p, .udpReflector, .aecEnabled, .nsEnabled, .agcEnabled, .voipProxyEnabled,
    .voipProxyAddress, .voipProxyPort, .voipProxyUsername, .voipProxyPassword, .extraWaitTime,
    .peerFloodTime]

def clientFields : List Field :=
  [.apiId, .apiHash, .phoneNumber, .dbFolder, .systemLanguageCode, .deviceModel, .systemVersion,
    .applicationVersion, .proxyEnabled, .proxyAddress, .proxyPort, .proxyUsername, .proxyPassword]

section Getters

variable {settings one two : Settings} {reader first second : INIReader} {key : Key}

theorem Settings.calls_congr
    (same : ∀ field ∈ callFields, one.value field = two.value field) : one.calls = two.calls := by
  simp only [callFields, List.forall_mem_cons, Settings.value, Value.text.injEq,
    Value.bool.injEq, Value.short.injEq, Value.unsigned.injEq] at same
  simp only [Settings.calls, same]

theorem Settings.client_congr
    (same : ∀ field ∈ clientFields, one.value field = two.value field) :
    one.client = two.client := by
  simp only [clientFields, List.forall_mem_cons, Settings.value, Value.text.injEq,
    Value.bool.injEq, Value.int.injEq] at same
  simp only [Settings.client, same]

theorem Key.Variant.calls_eq (variant : key.Variant first second)
    (constructsOne : first.Constructs one) (constructsTwo : second.Constructs two)
    (outside : ∀ field ∈ callFields, field.key.mapKey ≠ key.mapKey) : one.calls = two.calls := by
  apply Settings.calls_congr
  intro field member
  exact variant.value_eq constructsOne constructsTwo (outside field member)

theorem Key.Variant.client_eq (variant : key.Variant first second)
    (constructsOne : first.Constructs one) (constructsTwo : second.Constructs two)
    (outside : ∀ field ∈ clientFields, field.key.mapKey ≠ key.mapKey) :
    one.client = two.client := by
  apply Settings.client_congr
  intro field member
  exact variant.value_eq constructsOne constructsTwo (outside field member)

/-- The extra time of a flood wait is the number in the file, cut to 32 bits. -/
theorem INIReader.Constructs.calls_extraWaitTime (constructed : reader.Constructs settings)
    (parsed : 0 ≤ reader.parseError) :
    settings.calls =
      settings.calls.withExtraWaitTime (reader.getInteger "other" "extra_wait_time" 30) := by
  have value : settings.value .extraWaitTime = (Settings.assigned reader).value .extraWaitTime :=
    constructed.assigned parsed
  have seconds : settings.extraWaitTime =
      UInt32.ofInt (reader.getInteger "other" "extra_wait_time" 30) := Value.unsigned.inj value
  unfold Settings.calls Tg2Sip.Cpp.Settings.withExtraWaitTime
  rw [← seconds]

/-- TDLib is told the database folder as the language of the system. -/
theorem INIReader.Constructs.initLibParameters (constructed : reader.Constructs settings)
    (parsed : 0 ≤ reader.parseError) {folder : String}
    (stored : reader.values databaseFolder.mapKey = some folder) :
    settings.client.initLibParameters.databaseDirectory = folder ∧
      settings.client.initLibParameters.systemLanguageCode = folder :=
  constructed.language parsed stored

end Getters

end Tg2Sip.Config
