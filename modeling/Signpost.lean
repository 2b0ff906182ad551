import Signpost.Commands
import Signpost.Main
import Signpost.Proofs.FewerDocuments
import Signpost.Proofs.LinkedOrder
import Signpost.Proofs.NamedSidebars
import Signpost.Proofs.RelativeLinks
import Signpost.Proofs.SpecGrammar
import Signpost.Proofs.WrittenTree
import Signpost.Proofs.DecodedAscii
import Signpost.Proofs.PathFolding
import Signpost.Proofs.FilledRegistry
import Signpost.Proofs.BrokenLinks
import Signpost.Proofs.DocumentSearch
import Signpost.Proofs.CheckTranscript
import Signpost.Proofs.CommandAgreement
import Signpost.Proofs.RegistrationOrder
import Signpost.Proofs.ReferenceReplacement
import Signpost.Proofs.ReferableDocuments
import Signpost.Proofs.NodePlaces
import Signpost.Proofs.FirstOffence
import Signpost.Proofs.SidebarForms
import Signpost.Proofs.FirstOccurrence
import Signpost.Proofs.MendedLinks
import Signpost.Proofs.FencedText
import Signpost.Proofs.DocumentFolders
import Signpost.Proofs.HeadingLines
import Signpost.Proofs.EscapingLinks
import Signpost.Proofs.LayeredOptions
import Signpost.Proofs.BadReferences
import Signpost.Proofs.NearestConfig
import Signpost.Proofs.NamingConvention
