import MediaShelves.Main
import MediaShelves.Shelves.Bare
import MediaShelves.Shelves.Cached
import MediaShelves.Shelves.Refusing
import MediaShelves.Proofs.Catalog.Classes
import MediaShelves.Proofs.Catalog.Consistency
import MediaShelves.Proofs.Catalog.Listing
import MediaShelves.Proofs.Catalog.Trails
import MediaShelves.Proofs.ContainerPath
import MediaShelves.Proofs.EmptyElements
import MediaShelves.Proofs.FilePath.SegmentsBelow
import MediaShelves.Proofs.ImportOrder
import MediaShelves.Proofs.PinnedIds
import MediaShelves.Proofs.Plan.Boxes
import MediaShelves.Proofs.Plan.BoxSettings
import MediaShelves.Proofs.Plan.DirectoryFolders
import MediaShelves.Proofs.Plan.DisabledBoxes
import MediaShelves.Proofs.Plan.Selection
import MediaShelves.Proofs.Plan.Topics
import MediaShelves.Proofs.Playlist.Documents
import MediaShelves.Proofs.Playlist.FieldRuns
import MediaShelves.Proofs.Playlist.LineGrammar
import MediaShelves.Proofs.Playlist.Positions
import MediaShelves.Proofs.Playlist.Separation
import MediaShelves.Proofs.Playlist.Targets
import MediaShelves.Proofs.Reimport
import MediaShelves.Proofs.ReturnedIds
import MediaShelves.Proofs.Scan.Classes
import MediaShelves.Proofs.Scan.Order
import MediaShelves.Proofs.Scan.Playlists
import MediaShelves.Proofs.Shelves.Cached
import MediaShelves.Proofs.Shelves.Refusals
import MediaShelves.Proofs.Sidecar.Fields
import MediaShelves.Proofs.Sidecar.Revision
import MediaShelves.Proofs.StandardPlans
import MediaShelves.Proofs.Facets.DateOrder
import MediaShelves.Proofs.Facets.CaptureDays
import MediaShelves.Proofs.Facets.Placeholders
import MediaShelves.Proofs.NameMap
import MediaShelves.Proofs.Catalog.Classes
