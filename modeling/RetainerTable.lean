import RetainerTable.BuildContext
import RetainerTable.Main
import RetainerTable.Showcase
import RetainerTable.Proofs.Associations.Spellings
import RetainerTable.Proofs.BuildContext.Upkeep
import RetainerTable.Proofs.CommandLine.Effects
import RetainerTable.Proofs.Generation.Eligibility
import RetainerTable.Proofs.Generation.Failure
import RetainerTable.Proofs.Generation.Insertion
import RetainerTable.Proofs.Generation.Override
import RetainerTable.Proofs.Generation.Promotion
import RetainerTable.Proofs.Generation.Respelling
import RetainerTable.Proofs.Hierarchy.Arena
import RetainerTable.Proofs.Hierarchy.Layout
import RetainerTable.Proofs.Hierarchy.Nesting
import RetainerTable.Proofs.Hierarchy.Refusal
import RetainerTable.Proofs.Inheritance.Memory
import RetainerTable.Proofs.Inheritance.Preorder
import RetainerTable.Proofs.Inheritance.Roots
import RetainerTable.Proofs.Registration
import RetainerTable.Proofs.Session
import RetainerTable.Proofs.SettingsDocument
import RetainerTable.Proofs.Table.Contents
import RetainerTable.Proofs.Table.Listing
import RetainerTable.Proofs.Table.Splicing
import RetainerTable.Proofs.TypeReference.Names
