import Canopy.Main
import Canopy.Report.Members
import Canopy.Proofs.Addresses
import Canopy.Proofs.Traversal
import Canopy.Proofs.Descendants
import Canopy.Proofs.Flatten
import Canopy.Proofs.Ancestry
import Canopy.Proofs.Dict
import Canopy.Proofs.RegistryRuns
import Canopy.Proofs.RegistryLookup
import Canopy.Proofs.RegistryAliases
import Canopy.Proofs.RegistryBindings
import Canopy.Proofs.Registration
import Canopy.Proofs.Readiness
import Canopy.Proofs.Outline
import Canopy.Proofs.Tokens
import Canopy.Proofs.Utf8
import Canopy.Proofs.Truncation
import Canopy.Proofs.RegistrationOrder
import Canopy.Proofs.JsonAtoms
import Canopy.Proofs.JsonRoundTrip
import Canopy.Proofs.Documents
import Canopy.Proofs.SourceOutcomes
import Canopy.Proofs.NodeTraits
import Canopy.Proofs.SourceTexts
import Canopy.Proofs.Provenance
import Canopy.Proofs.Children
import Canopy.Proofs.TargetChains
import Canopy.Proofs.ClassMembers
import Canopy.Proofs.MemberAccess
import Canopy.Proofs.MethodsByParents
import Canopy.Proofs.StaticStorage
import Canopy.Proofs.GrammarGate
import Canopy.Proofs.GrammarSessions
import Canopy.Proofs.Unregistration
import Canopy.Proofs.Defaults
import Canopy.Proofs.TableLayout
import Canopy.Proofs.FunctionNames
import Canopy.Proofs.CommandOutcomes
import Canopy.Proofs.LogFailures
