import V2xHub.Lib.Printf
import V2xHub.Lib.SqlLiteral

/-!
# The statements of the database contexts

The statements that `PluginContext`, `ConfigContext`, `LogContext` and `MessageContext` build from texts of a plugin, each
as the pieces that the source puts together. `DbContext::formatStringValue` puts a backslash in front of every quote; a
piece is `raw` where the source does without it.
-/

namespace V2xHub.Database
open SqlLiteral

/-- `DbContext::formatStringValue` -/
def formatStringValue (str : Str) : Str := escapeQuotes str

def sql (text : String) : Piece := .sql (CString.lit text)

/-- A number in quotes. -/
def number (n : Nat) : Piece := .raw (Printf.decimal n)

/-- The empty literal. -/
def empty : Piece := .raw []

structure PluginEntry where
  name : Str
  description : Str
  version : Str

structure PluginStatusItem where
  key : Str
  value : Str

structure SystemConfigurationParameterEntry where
  key : Str
  value : Str
  defaultValue : Str

structure PluginConfigurationParameterEntry where
  id : Nat
  key : Str
  value : Str
  defaultValue : Str
  description : Str

structure MessageTypeEntry where
  type : Str
  subtype : Str
  description : Str

inductive LogLevel where
  | Debug
  | Info
  | Warning
  | Error
  | Fatal

/-! ### `PluginContext` -/

def getPlugin (pluginName : Str) : List Piece :=
  [sql "SELECT * FROM `plugin` WHERE `plugin`.`name` = ", .escaped pluginName, sql ";"]

def insertOrUpdatePlugin (entry : PluginEntry) : List (List Piece) :=
  [[sql "INSERT INTO plugin (name, description, version) VALUES (", .escaped entry.name, sql ", ",
      .escaped entry.description, sql ", ", .escaped entry.version,
      sql ") ON DUPLICATE KEY UPDATE name = VALUES(name), description = VALUES(description), version = VALUES(version)"],
    [sql "SELECT `id` FROM `plugin` WHERE `plugin`.`name` = ", .raw entry.name, sql ";"]]

def setStatusForAllPlugins (status : Str) : List Piece :=
  [sql "UPDATE `pluginStatus` SET `value` = ", .escaped status, sql " WHERE `key` = ", empty, sql ";"]

def setPluginStatus (pluginId : Nat) (status : Str) : List Piece :=
  [sql "INSERT INTO `pluginStatus` (`pluginId`,`key`,`value`) VALUES (", number pluginId, sql ", ", empty, sql ", ",
    .escaped status, sql ") ON DUPLICATE KEY UPDATE value = VALUES(value);"]

/-- One row. -/
def statusRow (pluginId : Nat) (item : PluginStatusItem) : List Piece :=
  [sql "(", number pluginId, sql ", ", .escaped item.key, sql ", ", .escaped item.value, sql ")"]

def setPluginStatusItems (pluginId : Nat) (statusItems : List PluginStatusItem) : List (List Piece) :=
  if statusItems.length > 0 then
    [sql "INSERT INTO `pluginStatus` (`pluginId`,`key`,`value`) VALUES " ::
      List.intercalate [sql ", "] (statusItems.map (statusRow pluginId)) ++
        [sql " ON DUPLICATE KEY UPDATE value = VALUES(value);"]]
  else []

def removePluginStatusItems (pluginId : Nat) (itemKeys : List Str) : List (List Piece) :=
  itemKeys.map fun key => [sql "DELETE FROM `pluginStatus` WHERE `pluginId` = ", number pluginId, sql " AND `key` = ",
    .escaped key, sql ";"]

/-! ### `ConfigContext` -/

def getSystemConfigParameter (key : Str) : List Piece :=
  [sql "SELECT * FROM `systemConfigurationParameter` WHERE `key` = ", .escaped key, sql ";"]

def initializeSystemConfigParameter (entry : SystemConfigurationParameterEntry) : List (List Piece) :=
  [[sql "INSERT INTO `systemConfigurationParameter` (`key`, `value`, `defaultValue`) VALUES (", .escaped entry.key,
      sql ", ", .escaped entry.value, sql ", ", .escaped entry.defaultValue,
      sql ") ON DUPLICATE KEY UPDATE defaultValue = VALUES(defaultValue);"],
    getSystemConfigParameter entry.key]

/-- The insertion of one entry; system parameters always get the new value. -/
def insertConfigParameter (pluginId : Nat) (entry : PluginConfigurationParameterEntry) : List Piece :=
  [sql "INSERT INTO `pluginConfigurationParameter` (`pluginId`, `key`, `value`, `defaultValue`, `description`) VALUES (",
    number pluginId, sql ", ", .escaped entry.key, sql ", ", .escaped entry.value, sql ", ", .escaped entry.defaultValue,
    sql ", ", .escaped entry.description,
    sql ") ON DUPLICATE KEY UPDATE defaultValue = VALUES(defaultValue), description = VALUES(description)"] ++
  (if pluginId = 0 then [sql ", value = VALUES(value)"] else []) ++ [sql ";"]

/-- The removal of the other entries of the plugin. -/
def deleteOtherParameters (pluginId : Nat) (entries : List PluginConfigurationParameterEntry) : List Piece :=
  [sql "DELETE FROM `pluginConfigurationParameter` WHERE `pluginId` = ", number pluginId] ++
  if entries.length > 0 then
    sql " AND `key` NOT IN (" :: List.intercalate [sql ","] (entries.map fun entry => [.escaped entry.key]) ++ [sql ");"]
  else [sql ";"]

def initializePluginConfigParameters (pluginId : Nat) (entries : List PluginConfigurationParameterEntry) :
    List (List Piece) :=
  entries.map (insertConfigParameter pluginId) ++ if pluginId > 0 then [deleteOtherParameters pluginId entries] else []

def updatePluginConfigParameterValue (entry : PluginConfigurationParameterEntry) : List Piece :=
  [sql "UPDATE `pluginConfigurationParameter` SET `value` = ", .escaped entry.value, sql " WHERE `id` = ",
    number entry.id, sql ";"]

/-! ### `LogContext` -/

def levelString : LogLevel → Str
  | .Info => CString.lit "Info"
  | .Warning => CString.lit "Warning"
  | .Error => CString.lit "Error"
  | .Fatal => CString.lit "Fatal"
  | .Debug => CString.lit "Debug"

def addEventLogEntry (source description : Str) (level : LogLevel) : List Piece :=
  [sql "INSERT INTO `eventLog` (`source`,`description`,`logLevel`) VALUES (", .raw source, sql ", ", .escaped description,
    sql ", ", .raw (levelString level), sql ");"]

/-! ### `MessageContext` -/

def insertMessageType (entry : MessageTypeEntry) (updateDescriptionOnDuplicate : Bool) : List (List Piece) :=
  [[sql "INSERT INTO messageType (type, subtype, description) VALUES (", .raw entry.type, sql ",", .raw entry.subtype,
      sql ",", .raw entry.description, sql ")"] ++
    (if updateDescriptionOnDuplicate then [sql " ON DUPLICATE KEY UPDATE description=VALUES(description)"]
    else [sql " ON DUPLICATE KEY UPDATE `description`=IF(LENGTH(`description`)=0, ", .raw entry.description,
      sql ", `description`)"]) ++ [sql ";"],
    [sql "SELECT * FROM `messageType` WHERE `messageType`.`type` = ", .raw entry.type,
      sql " AND `messageType`.`subtype` = ", .raw entry.subtype]]

/-! ### All of them -/

/-- A call of a context with texts of a plugin. -/
inductive Call where
  | getPlugin (pluginName : Str)
  | insertOrUpdatePlugin (entry : PluginEntry)
  | setStatusForAllPlugins (status : Str)
  | setPluginStatus (pluginId : Nat) (status : Str)
  | setPluginStatusItems (pluginId : Nat) (statusItems : List PluginStatusItem)
  | removePluginStatusItems (pluginId : Nat) (itemKeys : List Str)
  | getSystemConfigParameter (key : Str)
  | initializeSystemConfigParameter (entry : SystemConfigurationParameterEntry)
  | initializePluginConfigParameters (pluginId : Nat) (entries : List PluginConfigurationParameterEntry)
  | updatePluginConfigParameterValue (entry : PluginConfigurationParameterEntry)
  | addEventLogEntry (source description : Str) (level : LogLevel)
  | insertMessageType (entry : MessageTypeEntry) (updateDescriptionOnDuplicate : Bool)

namespace Call

def statements : Call → List (List Piece)
  | getPlugin pluginName => [Database.getPlugin pluginName]
  | insertOrUpdatePlugin entry => Database.insertOrUpdatePlugin entry
  | setStatusForAllPlugins status => [Database.setStatusForAllPlugins status]
  | setPluginStatus pluginId status => [Database.setPluginStatus pluginId status]
  | setPluginStatusItems pluginId statusItems => Database.setPluginStatusItems pluginId statusItems
  | removePluginStatusItems pluginId itemKeys => Database.removePluginStatusItems pluginId itemKeys
  | getSystemConfigParameter key => [Database.getSystemConfigParameter key]
  | initializeSystemConfigParameter entry => Database.initializeSystemConfigParameter entry
  | initializePluginConfigParameters pluginId entries => Database.initializePluginConfigParameters pluginId entries
  | updatePluginConfigParameterValue entry => [Database.updatePluginConfigParameterValue entry]
  | addEventLogEntry source description level => [Database.addEventLogEntry source description level]
  | insertMessageType entry update => Database.insertMessageType entry update

/-- The texts are ones that come to the database as they are. -/
def Faithful : Call → Prop
  | getPlugin pluginName => Good pluginName
  | insertOrUpdatePlugin entry => Plain entry.name ∧ Good entry.description ∧ Good entry.version
  | setStatusForAllPlugins status => Good status
  | setPluginStatus _ status => Good status
  | setPluginStatusItems _ statusItems => ∀ item ∈ statusItems, Good item.key ∧ Good item.value
  | removePluginStatusItems _ itemKeys => ∀ key ∈ itemKeys, Good key
  | getSystemConfigParameter key => Good key
  | initializeSystemConfigParameter entry => Good entry.key ∧ Good entry.value ∧ Good entry.defaultValue
  | initializePluginConfigParameters _ entries =>
    ∀ entry ∈ entries, Good entry.key ∧ Good entry.value ∧ Good entry.defaultValue ∧ Good entry.description
  | updatePluginConfigParameterValue entry => Good entry.value
  | addEventLogEntry source description _ => Plain source ∧ Good description
  | insertMessageType entry _ => Plain entry.type ∧ Plain entry.subtype ∧ Plain entry.description

end Call

end V2xHub.Database
