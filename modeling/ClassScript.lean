import ClassScript.Engine
import ClassScript.Proofs.Machine.FrameStack
import ClassScript.Proofs.Soundness.ScalarRun
import ClassScript.Proofs.Soundness.LoopControl
import ClassScript.Proofs.Resolution.Names
import ClassScript.Proofs.Resolution.Overloads
import ClassScript.Proofs.Machine.CallDepth
import ClassScript.Proofs.Scope.Agreement
import ClassScript.Proofs.Typing.Unknown
import ClassScript.Proofs.Cascade.Unresolved
import ClassScript.Proofs.Misuse.StaticContext
import ClassScript.Proofs.Misuse.Targets
import ClassScript.Proofs.Order.Runs
import ClassScript.Proofs.Engine.History
import ClassScript.Proofs.Engine.Password
import ClassScript.Proofs.Registration.WellFormed
import ClassScript.Proofs.Spelling.Engines
import ClassScript.Proofs.Typing.Modular
import ClassScript.Proofs.Memory.StaticFields
import ClassScript.Proofs.Memory.Layout
import ClassScript.Proofs.Memory.Places
import ClassScript.Proofs.Memory.InitializationOrder
import ClassScript.Proofs.Class.SuperclassWalk
import ClassScript.Proofs.Registration.Batch
import ClassScript.Proofs.Typing.ExactOverload
import ClassScript.Proofs.Typing.HiddenMethods
import ClassScript.Proofs.Typing.OpenParameters
import ClassScript.Proofs.Collections.Indexing
import ClassScript.Proofs.Collections.MapViews
import ClassScript.Proofs.Collections.Display
import ClassScript.Proofs.Expansion.CompoundAssignment
import ClassScript.Proofs.Arithmetic.Steps
import ClassScript.Proofs.Collections.TextIndexes
import ClassScript.Proofs.Expansion.ForLoop
import ClassScript.Proofs.AssociationList
import ClassScript.Proofs.Scope.Blocks
