import RecordStore.Schema.Registry

/-!
# The surveillance catalogue

The tables of a ZoneMinder video surveillance installation, as data.  Relations are plain fields that
hold the identity of another row (`MonitorId`, `EventId`); no table refers to another in any other
way.
-/

namespace RecordStore.Catalog

/-! ## Enumerations -/

def monitorTypes : List String :=
  ["Local", "Remote", "File", "Ffmpeg", "Libvlc", "cURL", "WebSite", "NVSocket", "VNC"]

def monitorFunctions : List String := ["None", "Monitor", "Modect", "Record", "Mocord", "Nodect"]

def orientations : List String :=
  ["ROTATE_0", "ROTATE_90", "ROTATE_180", "ROTATE_270", "FLIP_HORI", "FLIP_VERT"]

def monitorStatuses : List String := ["Unknown", "NotRunning", "Running", "Connected", "Signal"]

def storageSchemes : List String := ["Deep", "Medium", "Shallow"]

def storageTypes : List String := ["local", "s3fs"]

def frameTypes : List String := ["Normal", "Bulk", "Alarm"]

def zoneTypes : List String :=
  ["Active", "Inclusive", "Exclusive", "Preclusive", "Inactive", "Privacy"]

def zoneUnits : List String := ["Pixels", "Percent"]

def checkMethods : List String := ["AlarmedPixels", "FilteredPixels", "Blobs"]

def controlTypes : List String :=
  ["Local", "Remote", "Ffmpeg", "Libvlc", "cURL", "WebSite", "NVSocket"]

def deviceTypes : List String := ["X10"]

def serverStatuses : List String := ["Unknown", "NotRunning", "Running"]

def permissionView : List String := ["None", "View"]

def permissionEdit : List String := ["None", "View", "Edit"]

/-! ## Tables -/

private def text := Field.ofKind .string
private def int := Field.ofKind .int
private def bigInt := Field.ofKind .bigInt
private def decimal := Field.ofKind .decimal
private def flag := Field.ofKind .boolean
private def moment := Field.ofKind .dateTime
private def choice (variants : List String) := Field.ofKind (.enumeration variants)

/-! ### Configuration and system -/

def tableConfig : Except SchemaError Entity :=
  Entity.declare "Config"
    [(int "Id").numbered.asKey,
     text "Name",
     text "Value",
     text "Type",
     (text "DefaultValue").orNull,
     (text "Hint").orNull,
     (text "Pattern").orNull,
     (text "Format").orNull,
     (text "Prompt").orNull,
     (text "Help").orNull,
     text "Category",
     (int "Readonly").withDefault (.int 0),
     (text "Requires").orNull]
    ["Name"]

def tableLogs : Except SchemaError Entity :=
  Entity.declare "Logs"
    [(int "Id").numbered,
     decimal "TimeKey",
     text "Component",
     (int "ServerId").orNull,
     (int "Pid").orNull,
     int "Level",
     text "Code",
     text "Message",
     (text "File").orNull,
     (int "Line").orNull]
    ["Id"]

def tableServers : Except SchemaError Entity :=
  Entity.declare "Servers"
    [(int "Id").numbered,
     (text "Protocol").orNull,
     (text "Hostname").orNull,
     (int "Port").orNull,
     (text "PathToIndex").orNull,
     (text "PathToZMS").orNull,
     (text "PathToApi").orNull,
     (text "Name").withDefault (.string ""),
     (int "State_Id").orNull,
     (choice serverStatuses "Status").withDefault (.string "Unknown"),
     (decimal "CpuLoad").orNull,
     (bigInt "TotalMem").orNull,
     (bigInt "FreeMem").orNull,
     (bigInt "TotalSwap").orNull,
     (bigInt "FreeSwap").orNull,
     (int "zmstats").withDefault (.int 0),
     (int "zmaudit").withDefault (.int 0),
     (int "zmtrigger").withDefault (.int 0),
     (int "zmeventnotification").withDefault (.int 0)]
    ["Id"]

def tableServerStats : Except SchemaError Entity :=
  Entity.declare "Server_Stats"
    [(int "Id").numbered,
     (int "ServerId").orNull,
     (moment "TimeStamp").stamped,
     (decimal "CpuLoad").orNull,
     (bigInt "TotalMem").orNull,
     (bigInt "FreeMem").orNull,
     (bigInt "TotalSwap").orNull,
     (bigInt "FreeSwap").orNull]
    ["Id"]

def tableStorage : Except SchemaError Entity :=
  Entity.declare "Storage"
    [(int "Id").numbered,
     (text "Path").withDefault (.string ""),
     (text "Name").withDefault (.string ""),
     (choice storageTypes "Type").withDefault (.string "local"),
     (text "Url").orNull,
     (bigInt "DiskSpace").orNull,
     (choice storageSchemes "Scheme").withDefault (.string "Medium"),
     (int "ServerId").orNull,
     (int "DoDelete").withDefault (.int 1),
     (int "Enabled").withDefault (.int 1)]
    ["Id"]

def tableStates : Except SchemaError Entity :=
  Entity.declare "States"
    [(int "Id").numbered,
     ((text "Name").withDefault (.string "")).asKey,
     text "Definition",
     (int "IsActive").withDefault (.int 0)]
    ["Id"]

/-! ### Monitors -/

def tableMonitors : Except SchemaError Entity :=
  Entity.declare "Monitors"
    [(int "Id").numbered,
     text "Name",
     (text "Notes").orNull,
     (int "ServerId").orNull,
     (int "StorageId").withDefault (.int 0),
     (choice monitorTypes "Type").withDefault (.string "Local"),
     (choice monitorFunctions "Function").withDefault (.string "Monitor"),
     (int "Enabled").withDefault (.int 1),
     (text "LinkedMonitors").orNull,
     (text "Device").withDefault (.string ""),
     (int "Channel").withDefault (.int 0),
     (text "Protocol").orNull,
     (text "Method").orNull,
     (text "Host").orNull,
     (text "Port").withDefault (.string ""),
     (text "Path").orNull,
     (int "Width").withDefault (.int 0),
     (int "Height").withDefault (.int 0),
     (int "Colours").withDefault (.int 1),
     (choice orientations "Orientation").withDefault (.string "ROTATE_0"),
     (decimal "MaxFPS").orNull,
     (decimal "AlarmMaxFPS").orNull,
     (int "ImageBufferCount").withDefault (.int 3),
     (int "Controllable").withDefault (.int 0),
     (int "ControlId").orNull,
     (int "Sequence").orNull,
     (decimal "Latitude").orNull,
     (decimal "Longitude").orNull]
    ["Id"]

def tableMonitorStatus : Except SchemaError Entity :=
  Entity.declare "Monitor_Status"
    [int "MonitorId",
     (choice monitorStatuses "Status").withDefault (.string "Unknown"),
     (decimal "CaptureFPS").withDefault (.int 0),
     (decimal "AnalysisFPS").withDefault (.int 0),
     (int "CaptureBandwidth").withDefault (.int 0)]
    ["MonitorId"]

def tableMonitorPresets : Except SchemaError Entity :=
  Entity.declare "MonitorPresets"
    [(int "Id").numbered,
     (text "Name").withDefault (.string ""),
     (choice monitorTypes "Type").withDefault (.string "Local"),
     (text "Device").orNull,
     (text "Protocol").orNull,
     (text "Method").orNull,
     (text "Host").orNull,
     (text "Port").orNull,
     (text "Path").orNull,
     (int "Width").orNull,
     (int "Height").orNull,
     (int "Palette").orNull,
     (decimal "MaxFPS").orNull,
     (int "Controllable").withDefault (.int 0),
     (text "ControlId").orNull]
    ["Id"]

def tableTriggersX10 : Except SchemaError Entity :=
  Entity.declare "TriggersX10"
    [int "MonitorId",
     (text "Activation").orNull,
     (text "AlarmInput").orNull,
     (text "AlarmOutput").orNull]
    ["MonitorId"]

def tableMontageLayouts : Except SchemaError Entity :=
  Entity.declare "MontageLayouts"
    [(int "Id").numbered,
     text "Name",
     (text "Positions").orNull]
    ["Id"]

/-! ### Events -/

def tableEvents : Except SchemaError Entity :=
  Entity.declare "Events"
    [(bigInt "Id").numbered,
     int "MonitorId",
     (int "StorageId").orNull,
     (int "SecondaryStorageId").orNull,
     (text "Name").withDefault (.string ""),
     (text "Cause").withDefault (.string ""),
     (moment "StartDateTime").orNull,
     (moment "EndDateTime").orNull,
     (int "Width").withDefault (.int 0),
     (int "Height").withDefault (.int 0),
     (decimal "Length").withDefault (.int 0),
     (int "Frames").orNull,
     (int "AlarmFrames").orNull,
     (text "DefaultVideo").withDefault (.string ""),
     (int "SaveJPEGs").orNull,
     (int "TotScore").withDefault (.int 0),
     (int "AvgScore").orNull,
     (int "MaxScore").orNull,
     (int "Archived").withDefault (.int 0),
     (int "Videoed").withDefault (.int 0),
     (int "Uploaded").withDefault (.int 0),
     (int "Emailed").withDefault (.int 0),
     (int "Messaged").withDefault (.int 0),
     (int "Executed").withDefault (.int 0),
     (text "Notes").orNull,
     int "StateId",
     (choice orientations "Orientation").withDefault (.string "ROTATE_0"),
     (bigInt "DiskSpace").orNull,
     (choice storageSchemes "Scheme").withDefault (.string "Medium"),
     (flag "Locked").withDefault (.bool false)]
    ["Id"]

def tableEventRollup (name : String) : Except SchemaError Entity :=
  Entity.declare name
    [bigInt "EventId",
     int "MonitorId",
     moment "StartDateTime",
     (bigInt "DiskSpace").orNull]
    ["EventId"]

def tableEventsArchived : Except SchemaError Entity :=
  Entity.declare "Events_Archived"
    [bigInt "EventId",
     int "MonitorId",
     (bigInt "DiskSpace").orNull]
    ["EventId"]

def tableEventSummaries : Except SchemaError Entity :=
  Entity.declare "Event_Summaries"
    [int "MonitorId",
     (int "TotalEvents").orNull,
     (bigInt "TotalEventDiskSpace").orNull,
     (int "HourEvents").orNull,
     (bigInt "HourEventDiskSpace").orNull,
     (int "DayEvents").orNull,
     (bigInt "DayEventDiskSpace").orNull,
     (int "WeekEvents").orNull,
     (bigInt "WeekEventDiskSpace").orNull,
     (int "MonthEvents").orNull,
     (bigInt "MonthEventDiskSpace").orNull,
     (int "ArchivedEvents").orNull,
     (bigInt "ArchivedEventDiskSpace").orNull]
    ["MonitorId"]

def tableFrames : Except SchemaError Entity :=
  Entity.declare "Frames"
    [(bigInt "Id").numbered,
     bigInt "EventId",
     int "FrameId",
     (choice frameTypes "Type").withDefault (.string "Normal"),
     (moment "TimeStamp").stamped,
     (decimal "Delta").withDefault (.int 0),
     (int "Score").withDefault (.int 0)]
    ["Id"]

def tableStats : Except SchemaError Entity :=
  Entity.declare "Stats"
    [(int "Id").numbered,
     int "MonitorId",
     int "ZoneId",
     bigInt "EventId",
     int "FrameId",
     (int "PixelDiff").withDefault (.int 0),
     (int "AlarmPixels").withDefault (.int 0),
     (int "FilterPixels").withDefault (.int 0),
     (int "BlobPixels").withDefault (.int 0),
     (int "Blobs").withDefault (.int 0),
     (int "MinBlobSize").withDefault (.int 0),
     (int "MaxBlobSize").withDefault (.int 0),
     (int "MinX").withDefault (.int 0),
     (int "MaxX").withDefault (.int 0),
     (int "MinY").withDefault (.int 0),
     (int "MaxY").withDefault (.int 0),
     (int "Score").withDefault (.int 0)]
    ["Id"]

def tableTags : Except SchemaError Entity :=
  Entity.declare "Tags"
    [(bigInt "Id").numbered,
     ((text "Name").withDefault (.string "")).asKey,
     (moment "CreateDate").orNull,
     (int "CreatedBy").orNull,
     (moment "LastAssignedDate").orNull]
    ["Id"]

def tableEventsTags : Except SchemaError Entity :=
  Entity.declare "Events_Tags"
    [bigInt "TagId",
     bigInt "EventId",
     (moment "AssignedDate").orNull,
     (int "AssignedBy").orNull]
    ["TagId", "EventId"]

def tableSnapshots : Except SchemaError Entity :=
  Entity.declare "Snapshots"
    [(int "Id").numbered,
     (text "Name").orNull,
     (text "Description").orNull,
     (int "CreatedBy").orNull,
     (moment "CreatedOn").orNull]
    ["Id"]

def tableSnapshotsEvents : Except SchemaError Entity :=
  Entity.declare "Snapshots_Events"
    [(int "Id").numbered,
     int "SnapshotId",
     bigInt "EventId"]
    ["Id"]

/-! ### Groups and users -/

def tableGroups : Except SchemaError Entity :=
  Entity.declare "Groups"
    [(int "Id").numbered,
     text "Name",
     (int "ParentId").orNull]
    ["Id"]

def tableGroupsMonitors : Except SchemaError Entity :=
  Entity.declare "Groups_Monitors"
    [(int "Id").numbered,
     int "GroupId",
     int "MonitorId"]
    ["Id"]

def tableUsers : Except SchemaError Entity :=
  Entity.declare "Users"
    [(int "Id").numbered,
     (text "Username").asKey,
     (text "Name").withDefault (.string ""),
     (text "Email").withDefault (.string ""),
     (text "Phone").withDefault (.string ""),
     text "Password",
     (text "Language").orNull,
     (int "Enabled").withDefault (.int 1),
     (choice permissionView "Stream").withDefault (.string "None"),
     (choice permissionEdit "Events").withDefault (.string "None"),
     (choice permissionEdit "Control").withDefault (.string "None"),
     (choice permissionEdit "Monitors").withDefault (.string "None"),
     (choice permissionEdit "Groups").withDefault (.string "None"),
     (choice permissionEdit "Devices").withDefault (.string "None"),
     (choice permissionEdit "Snapshots").withDefault (.string "None"),
     (choice permissionEdit "System").withDefault (.string "None"),
     (text "MaxBandwidth").orNull,
     (bigInt "TokenMinExpiry").withDefault (.int 0),
     (int "APIEnabled").withDefault (.int 1),
     (text "HomeView").withDefault (.string "")]
    ["Id"]

def tableSessions : Except SchemaError Entity :=
  Entity.declare "Sessions"
    [text "id",
     (int "access").orNull,
     (text "data").orNull]
    ["id"]

/-! ### Zones -/

def tableZones : Except SchemaError Entity :=
  Entity.declare "Zones"
    [(int "Id").numbered,
     int "MonitorId",
     text "Name",
     (choice zoneTypes "Type").withDefault (.string "Active"),
     (choice zoneUnits "Units").withDefault (.string "Pixels"),
     (int "NumCoords").withDefault (.int 0),
     text "Coords",
     (int "Area").withDefault (.int 0),
     (int "AlarmRGB").orNull,
     (choice checkMethods "CheckMethod").withDefault (.string "Blobs"),
     (int "MinPixelThreshold").orNull,
     (int "MaxPixelThreshold").orNull,
     (int "MinAlarmPixels").orNull,
     (int "MaxAlarmPixels").orNull,
     (int "FilterX").orNull,
     (int "FilterY").orNull,
     (int "MinFilterPixels").orNull,
     (int "MaxFilterPixels").orNull,
     (int "MinBlobPixels").orNull,
     (int "MaxBlobPixels").orNull,
     (int "MinBlobs").orNull,
     (int "MaxBlobs").orNull,
     (int "OverloadFrames").withDefault (.int 0),
     (int "ExtendAlarmFrames").withDefault (.int 0)]
    ["Id"]

def tableZonePresets : Except SchemaError Entity :=
  Entity.declare "ZonePresets"
    [(int "Id").numbered,
     ((text "Name").withDefault (.string "")).asKey,
     (choice zoneTypes "Type").withDefault (.string "Active"),
     (choice zoneUnits "Units").withDefault (.string "Pixels"),
     (choice checkMethods "CheckMethod").withDefault (.string "Blobs"),
     (int "MinPixelThreshold").orNull,
     (int "MaxPixelThreshold").orNull,
     (int "MinAlarmPixels").orNull,
     (int "MaxAlarmPixels").orNull,
     (int "FilterX").orNull,
     (int "FilterY").orNull,
     (int "MinBlobs").orNull,
     (int "MaxBlobs").orNull,
     (int "OverloadFrames").withDefault (.int 0),
     (int "ExtendAlarmFrames").withDefault (.int 0)]
    ["Id"]

def tableMaps : Except SchemaError Entity :=
  Entity.declare "Maps"
    [(int "Id").numbered,
     text "Name",
     (text "Filename").withDefault (.string ""),
     (int "NumCoords").withDefault (.int 0),
     text "Coords",
     (int "ParentId").orNull]
    ["Id"]

/-! ### Devices and controls -/

def tableDevices : Except SchemaError Entity :=
  Entity.declare "Devices"
    [(int "Id").numbered,
     text "Name",
     (choice deviceTypes "Type").withDefault (.string "X10"),
     (text "KeyString").withDefault (.string "")]
    ["Id"]

def tableControls : Except SchemaError Entity :=
  Entity.declare "Controls"
    [(int "Id").numbered,
     text "Name",
     (choice controlTypes "Type").withDefault (.string "Local"),
     (text "Protocol").orNull,
     (int "CanWake").withDefault (.int 0),
     (int "CanSleep").withDefault (.int 0),
     (int "CanReset").withDefault (.int 0),
     (int "CanReboot").withDefault (.int 0),
     (int "CanZoom").withDefault (.int 0),
     (int "CanFocus").withDefault (.int 0),
     (int "CanIris").withDefault (.int 0),
     (int "CanWhite").withDefault (.int 0),
     (int "CanPan").withDefault (.int 0),
     (int "CanTilt").withDefault (.int 0),
     (int "HasPresets").withDefault (.int 0),
     (int "NumPresets").withDefault (.int 0),
     (int "HasHomePreset").withDefault (.int 0)]
    ["Id"]

def tableControlPresets : Except SchemaError Entity :=
  Entity.declare "ControlPresets"
    [int "MonitorId",
     int "Preset",
     text "Label"]
    ["MonitorId", "Preset"]

def tableManufacturers : Except SchemaError Entity :=
  Entity.declare "Manufacturers"
    [(int "Id").numbered,
     (text "Name").asKey]
    ["Id"]

def tableModels : Except SchemaError Entity :=
  Entity.declare "Models"
    [(int "Id").numbered,
     text "Name",
     (int "ManufacturerId").orNull]
    ["Id"]

def tableObjectTypes : Except SchemaError Entity :=
  Entity.declare "Object_Types"
    [(int "Id").numbered,
     (text "Name").orNull,
     (text "Human").orNull]
    ["Id"]

/-! ### Filters -/

def tableFilters : Except SchemaError Entity :=
  Entity.declare "Filters"
    [(int "Id").numbered,
     (text "Name").withDefault (.string ""),
     (int "UserId").orNull,
     (int "ExecuteInterval").withDefault (.int 60),
     text "Query_json",
     (int "AutoArchive").withDefault (.int 0),
     (int "AutoUnarchive").withDefault (.int 0),
     (int "AutoVideo").withDefault (.int 0),
     (int "AutoUpload").withDefault (.int 0),
     (int "AutoEmail").withDefault (.int 0),
     (int "AutoMessage").withDefault (.int 0),
     (int "AutoExecute").withDefault (.int 0),
     (text "AutoExecuteCmd").orNull,
     (int "AutoDelete").withDefault (.int 0),
     (int "AutoMove").withDefault (.int 0),
     (int "AutoMoveTo").withDefault (.int 0),
     (int "AutoCopy").withDefault (.int 0),
     (int "AutoCopyTo").withDefault (.int 0),
     (int "UpdateDiskSpace").withDefault (.int 0),
     (int "Background").withDefault (.int 0),
     (int "Concurrent").withDefault (.int 0),
     (int "LockRows").withDefault (.int 0)]
    ["Id"]

/-! ## The registry -/

/-- Every table of the catalogue, in the order of declaration. -/
def tables : List (Except SchemaError Entity) :=
  [tableConfig, tableMonitors, tableMonitorStatus, tableMonitorPresets, tableEvents,
   tableEventsArchived, tableEventSummaries, tableFrames, tableStats, tableGroups,
   tableGroupsMonitors, tableUsers, tableSessions, tableZones, tableZonePresets, tableControls,
   tableControlPresets, tableDevices, tableFilters, tableLogs, tableServers, tableServerStats,
   tableStorage, tableStates, tableTriggersX10, tableMontageLayouts, tableSnapshots,
   tableSnapshotsEvents, tableMaps, tableManufacturers, tableModels, tableObjectTypes, tableTags,
   tableEventsTags, tableEventRollup "Events_Hour", tableEventRollup "Events_Day",
   tableEventRollup "Events_Week", tableEventRollup "Events_Month"]

def registry : Except SchemaError Registry := do
  Registry.ofEntities (← tables.mapM id)

end RecordStore.Catalog
