import EntityMapping.Main
import EntityMapping.Proofs.RelationInference
import EntityMapping.Proofs.RelationSymmetry
import EntityMapping.Proofs.EntityDescription
import EntityMapping.Proofs.TypeResolution
import EntityMapping.Proofs.DiagnosticAccount
import EntityMapping.Proofs.ColumnStorage
import EntityMapping.Proofs.Locality
import EntityMapping.Proofs.RelationTargets
import EntityMapping.Proofs.DeclarationOrder
import EntityMapping.Proofs.SessionHistory
import EntityMapping.Proofs.SessionSource
import EntityMapping.Proofs.Arrangement
import EntityMapping.Proofs.TreeReading
import EntityMapping.Proofs.ExpressionReading
import EntityMapping.Proofs.SchemaReading
import EntityMapping.Proofs.CommandAgreement
import EntityMapping.Proofs.ReportEncoding
import EntityMapping.Proofs.ColumnReference
import EntityMapping.Proofs.IndexDeclarations
import EntityMapping.Proofs.ColumnListPosition
import EntityMapping.Proofs.IndexCandidates
import EntityMapping.Proofs.RelationWiring
import EntityMapping.Proofs.RelationNaming
import EntityMapping.Proofs.AttributeOrder
import EntityMapping.Proofs.EnumerationImports
