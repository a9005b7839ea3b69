import HostResolver.Address.Nameserver
import HostResolver.Config.Feed
import HostResolver.Config.Parser
import HostResolver.Document.Yaml.Reading
import HostResolver.Logging.Setup
import HostResolver.Provider.Program
import HostResolver.Settings.Source
import HostResolver.Proofs.Text.Fields
import HostResolver.Proofs.Text.Words
import HostResolver.Proofs.Text.Numerals
import HostResolver.Proofs.Address.Literal
import HostResolver.Proofs.Address.Grammar
import HostResolver.Proofs.Address.Nameserver
import HostResolver.Proofs.Config.Filing
import HostResolver.Proofs.Config.Sections
import HostResolver.Proofs.Config.Parsing
import HostResolver.Proofs.Config.Appending
import HostResolver.Proofs.Provider.Building
import HostResolver.Proofs.Provider.Walk
import HostResolver.Proofs.Provider.MostSpecific
import HostResolver.Proofs.Provider.Servable
import HostResolver.Proofs.Config.ServerLines
import HostResolver.Proofs.Provider.Sources
import HostResolver.Proofs.Servers.Passes
import HostResolver.Proofs.Servers.Duplicates
import HostResolver.Proofs.Provider.Starting
import HostResolver.Proofs.Provider.Runs
import HostResolver.Proofs.Provider.Turns
import HostResolver.Proofs.Provider.Duplicates
import HostResolver.Proofs.Provider.Asking
import HostResolver.Proofs.Address.Rendering
import HostResolver.Proofs.Address.ReadBack
import HostResolver.Proofs.Address.Canonical
import HostResolver.Proofs.Config.WrittenServers
import HostResolver.Proofs.Text.Blocks
import HostResolver.Proofs.Text.BlockReader
import HostResolver.Proofs.Config.RefusedLines
import HostResolver.Proofs.Config.BlockwiseFiles
import HostResolver.Proofs.Config.MalformedLines
import HostResolver.Proofs.Config.Feeding
import HostResolver.Proofs.Config.LastOption
import HostResolver.Proofs.Provider.LeadingSection
import HostResolver.Proofs.Files.Looking
import HostResolver.Proofs.Provider.Refusals
import HostResolver.Proofs.Document.Entries
import HostResolver.Proofs.Document.Equality
import HostResolver.Proofs.Settings.Collecting
import HostResolver.Proofs.Settings.Loading
import HostResolver.Proofs.Settings.Refusals
import HostResolver.Proofs.Settings.NamedEntries
import HostResolver.Proofs.Settings.Precedence
import HostResolver.Proofs.Files.Writing
import HostResolver.Proofs.Logging.Equipping
import HostResolver.Proofs.Logging.SystemLog
import HostResolver.Proofs.Logging.Delivery
import HostResolver.Proofs.Logging.Hierarchy
import HostResolver.Proofs.Logging.Decisions
import HostResolver.Proofs.Logging.Assignments
import HostResolver.Proofs.Logging.Runs
import HostResolver.Proofs.Provider.Discards
import HostResolver.Proofs.Config.SearchList
import HostResolver.Proofs.Files.Listing
import HostResolver.Proofs.Provider.Directories
import HostResolver.Proofs.Settings.NormalForm
import HostResolver.Proofs.Provider.FromSettings
import HostResolver.Proofs.Provider.Programs
import HostResolver.Proofs.Number.Rounding
import HostResolver.Proofs.Time.Instants
import HostResolver.Proofs.Logging.Chronology
