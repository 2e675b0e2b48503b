import V2xHub.ApiMessages.Config
import V2xHub.ApiMessages.MessageType

/-!
# Registration messages

`IvpRegister.c`: the payload is the manifest of the plugin.
-/

namespace V2xHub

structure IvpManifest where
  name : Option Str
  description : Option Str
  version : Option Str
  configuration : Option CJson
  messageTypes : Option CJson

namespace IvpRegister

def nameField : Str := CString.lit "name"
def descriptionField : Str := CString.lit "description"
def versionField : Str := CString.lit "version"
def configurationField : Str := CString.lit "configuration"
def messageTypesField : Str := CString.lit "messageTypes"

def getManifestFromJson (manifest : CJson) : IvpManifest where
  name := manifest.tryGetStr nameField
  description := manifest.tryGetStr descriptionField
  version := manifest.tryGetStr versionField
  configuration := manifest.getObjectItem configurationField
  messageTypes := manifest.getObjectItem messageTypesField

/-- `none` where the assertion about the type or the one about the payload fails. -/
def getManifest (msg : IvpMessage) : Option IvpManifest :=
  if msg.isRegistrationMsg then msg.payload.map getManifestFromJson else none

def validateManifest (manifest : IvpManifest) : IvpError :=
  if manifest.name.getD [] = [] then .createError IvpLogLevel_fatal IvpError_pluginNoName 0
  else if (IvpConfig.validate manifest.configuration).error ≠ IvpError_none then IvpConfig.validate manifest.configuration
  else if (IvpMsgType.validateCollection manifest.messageTypes).error ≠ IvpError_none then
    IvpMsgType.validateCollection manifest.messageTypes
  else IVP_ERROR_INITIALIZER

/-- What a manifest without an error has. -/
theorem validateManifest_spec {manifest : IvpManifest} (h : (validateManifest manifest).error = IvpError_none) :
    manifest.name.getD [] ≠ [] ∧ (IvpConfig.validate manifest.configuration).error = IvpError_none ∧
      (IvpMsgType.validateCollection manifest.messageTypes).error = IvpError_none := by
  rw [validateManifest] at h
  split_ifs at h with hname hconfig htypes
  · exact absurd h (by decide)
  · exact absurd h hconfig
  · exact absurd h htypes
  · exact ⟨hname, not_not.1 hconfig, not_not.1 htypes⟩

end IvpRegister

end V2xHub
