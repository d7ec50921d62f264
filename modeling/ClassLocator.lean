import ClassLocator.Main
import ClassLocator.Proofs.ClassPath.Directory
import ClassLocator.Proofs.Runtime.QualifiedName
import ClassLocator.Proofs.Search.Narrowing
import ClassLocator.Proofs.Session.Endings
import ClassLocator.Proofs.Session.Horizon
import ClassLocator.Proofs.ClassPath.Packing
import ClassLocator.Proofs.Session.Commands
import ClassLocator.Proofs.Session.Debugging
import ClassLocator.Proofs.Runtime.Queries
import ClassLocator.Proofs.Session.Units
import ClassLocator.Proofs.Session.Settings
import ClassLocator.Proofs.FileSystem.Spelling
import ClassLocator.Proofs.Session.Directories
import ClassLocator.Proofs.Report.ClassFilePath
import ClassLocator.Proofs.Runtime.FailedListing
import ClassLocator.Proofs.Search.Provenance
import ClassLocator.Proofs.Archive.Content
import ClassLocator.Proofs.Report.Sources
import ClassLocator.Proofs.Runtime.Additions
import ClassLocator.Proofs.Session.PathLines
import ClassLocator.Proofs.Session.Repetitions
import ClassLocator.Proofs.Session.Highlighting
import ClassLocator.Proofs.ClassPath.SourceArchive
import ClassLocator.Proofs.Text.Stripping
import ClassLocator.Proofs.Runtime.Listings
import ClassLocator.Proofs.FileSystem.Joining
import ClassLocator.Proofs.FileSystem.Naming
import ClassLocator.Proofs.ClassPath.Locations
import ClassLocator.Proofs.Report.Decoding
import ClassLocator.Proofs.Session.CommandLines
import ClassLocator.Proofs.ClassPath.FirstPlaces
import ClassLocator.Proofs.Diagnostics.Routing
