import Reflection.Dispatch.Handle
import Reflection.Json.Compact
import Reflection.Metadata.Debug
import Reflection.Registry.Registration
import Reflection.Script.Members
import Reflection.Types.IdentityHash
import Reflection.Types.TypeMap
import Reflection.Proofs.CacheHistory
import Reflection.Proofs.Invocation
import Reflection.Proofs.AccessorStore
import Reflection.Proofs.Hierarchy
import Reflection.Proofs.MemberTables
import Reflection.Proofs.Overloads
import Reflection.Proofs.DispatchMemo
import Reflection.Proofs.Dispatch
import Reflection.Proofs.RegistrationWalk
import Reflection.Proofs.RegistrationClosure
import Reflection.Proofs.Descriptors
import Reflection.Proofs.TargetRule
import Reflection.Proofs.GenericCalls
import Reflection.Proofs.BoundMembers
import Reflection.Proofs.NamedAccess
import Reflection.Proofs.FieldPlaces
import Reflection.Proofs.OverloadSelection
import Reflection.Proofs.CompactJson
import Reflection.Proofs.JsonRoundTrip
import Reflection.Proofs.Hiding
import Reflection.Proofs.HierarchyOrder
import Reflection.Proofs.Origins
import Reflection.Proofs.CanonicalValues
import Reflection.Proofs.IntegerKinds
import Reflection.Proofs.ExactOverloads
import Reflection.Proofs.FrameSlots
import Reflection.Proofs.ShortNames
import Reflection.Proofs.NullableParameters
import Reflection.Proofs.WholeNumbers
import Reflection.Proofs.NumberRange
import Reflection.Proofs.HashWidths
