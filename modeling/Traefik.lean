import Traefik.Metrics.LabelNamesValues
import Traefik.Metrics.GaugeCollector
import Traefik.Metrics.Slices
import Traefik.Metrics.Handles
import Traefik.Metrics.Exporter
import Traefik.Server.RouterFactory
import Traefik.Kubernetes.Ingress.Client
import Traefik.Kubernetes.Ingress.StatusUpdate
import Traefik.Server.Middlewares
import Traefik.Kubernetes.Crd.IngressRoutes
import Traefik.Metrics.Registry
