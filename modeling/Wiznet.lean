import Wiznet.Library.NorFlash
import Wiznet.Library.Thermometer
import Wiznet.Flash.Par
import Wiznet.Store.Corte
import Wiznet.Store.Mapa
import Wiznet.Store.Identidad
import Wiznet.Store.Repetida
import Wiznet.Store.Lecturas
import Wiznet.Store.Protocolo
import Wiznet.Mqtt.Suscripcion
import Wiznet.Mqtt.Plataforma
import Wiznet.Mqtt.Segmentos
import Wiznet.Mqtt.Silencio
import Wiznet.Dhcp.Direccion
import Wiznet.Dhcp.Renovacion
import Wiznet.Dhcp.Opciones
import Wiznet.Dhcp.Peticiones
import Wiznet.Dhcp.Acuerdo
import Wiznet.Automata.InitNetwork
import Wiznet.Automata.ConnectBroker
import Wiznet.Automata.Zocalo
import Wiznet.Dns.Numerico
import Wiznet.Dns.Espera
import Wiznet.Dns.Respuesta
import Wiznet.Tty.Seguros
import Wiznet.Serial.Ajustes
import Wiznet.Serial.Hora
import Wiznet.Settings.Garantias
import Wiznet.Socket.Apertura
import Wiznet.Socket.Carteo
import Wiznet.Mqtt.Transporte
import Wiznet.Mqtt.Temas
