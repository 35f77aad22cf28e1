import AdvancedShellHistory.Database.Basic
import AdvancedShellHistory.Database.Exec
import AdvancedShellHistory.Database.Sleep
import AdvancedShellHistory.Database.Results
import AdvancedShellHistory.Database.Retry
import AdvancedShellHistory.Database.Quote
import AdvancedShellHistory.Database.Sql
import AdvancedShellHistory.Database.DBObject
import AdvancedShellHistory.Database.Insert
import AdvancedShellHistory.Unix
import AdvancedShellHistory.Entities
import AdvancedShellHistory.Database.Open
import AdvancedShellHistory.AshLog
import AdvancedShellHistory.Formatter.Grouped
import AdvancedShellHistory.Formatter.Delimited
import AdvancedShellHistory.Formatter.Spaced
import AdvancedShellHistory.Formatter.Auto
import AdvancedShellHistory.Formatter.Registry
import AdvancedShellHistory.Logger
import AdvancedShellHistory.Flags
import AdvancedShellHistory.AshLog.Main
import AdvancedShellHistory.AshQuery
